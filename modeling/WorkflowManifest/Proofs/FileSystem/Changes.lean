import WorkflowManifest.FileSystem.Basic

namespace WorkflowManifest.FileSystem

variable {fs fs' : FileSystem} {path : String}

theorem find?_put {p : Place} (hp : p ≠ []) (e : Entry) (q : Place) :
    (fs.put p e).find? q = if q = p then some e else fs.find? q := by
  cases q with
  | nil => simp [find?, hp.symm]
  | cons name q => simp [find?, put, Entries.find?_insert]

structure KeepsDirectories (fs fs' : FileSystem) : Prop where
  workingDirectory : fs'.workingDirectory = fs.workingDirectory
  directories : ∀ p, fs.find? p = some .directory → fs'.find? p = some .directory

theorem keepsDirectories_put {p : Place} (hp : p ≠ []) (h : fs.find? p ≠ some .directory)
    (e : Entry) : KeepsDirectories fs (fs.put p e) where
  workingDirectory := rfl
  directories := by
    intro q hq
    have hne : q ≠ p := by
      rintro rfl
      exact h hq
    rw [find?_put hp, if_neg hne, hq]

section Kept

variable (hk : KeepsDirectories fs fs')

include hk

theorem lookUp_directory_kept {directory p : Place} {name : String}
    (h : fs.lookUp directory name = .ok (.existing p .directory)) :
    fs'.lookUp directory name = .ok (.existing p .directory) := by
  unfold lookUp at h ⊢
  split at h
  next hdot => rw [if_pos hdot, h]
  next hdot =>
    rw [if_neg hdot]
    split at h
    next hup => rw [if_pos hup, h]
    next hup =>
      rw [if_neg hup]
      split at h
      next => cases h
      next hlong =>
        rw [if_neg hlong]
        split at h
        next hf =>
          cases h
          rw [hk.directories _ hf]
        next => cases h

theorem enter_kept {directory p : Place} {name : String} (h : fs.enter directory name = .ok p) :
    fs'.enter directory name = .ok p := by
  cases hl : fs.lookUp directory name with
  | error e => simp [enter, hl, bind, Except.bind] at h
  | ok found =>
    cases found with
    | vacant q => simp [enter, hl, bind, Except.bind] at h
    | existing q e =>
      cases e with
      | directory =>
        have hl' := lookUp_directory_kept hk hl
        simpa [enter, hl, hl', bind, Except.bind] using h
      | file content => simp [enter, hl, bind, Except.bind] at h
      | full => simp [enter, hl, bind, Except.bind] at h
      | sink => simp [enter, hl, bind, Except.bind] at h

theorem enterAll_kept {names : List String} {start p : Place}
    (h : names.foldlM fs.enter start = .ok p) : names.foldlM fs'.enter start = .ok p := by
  induction names generalizing start with
  | nil => exact h
  | cons name names ih =>
    rw [List.foldlM_cons] at h ⊢
    cases he : fs.enter start name with
    | error e =>
      rw [he] at h
      cases h
    | ok q =>
      rw [he] at h
      rw [enter_kept hk he]
      exact ih h

theorem parent_kept {p : Place} (h : fs.parent path = .ok p) : fs'.parent path = .ok p := by
  unfold parent at h ⊢
  rw [hk.workingDirectory]
  split at h
  next => cases h
  next hnull =>
    rw [if_neg hnull]
    split at h
    next => cases h
    next hempty =>
      rw [if_neg hempty]
      split at h
      next => cases h
      next hlong =>
        rw [if_neg hlong]
        exact enterAll_kept hk h

theorem resolve_directory_kept {p : Place} (h : fs.resolve path = .ok (.existing p .directory)) :
    fs'.resolve path = .ok (.existing p .directory) := by
  cases hp : fs.parent path with
  | error e => simp [resolve, hp, bind, Except.bind] at h
  | ok directory =>
    simp only [resolve, hp, parent_kept hk hp, bind, Except.bind] at h ⊢
    cases hn : (Path.names path).getLast? with
    | none => simpa [hn] using h
    | some name =>
      rw [hn] at h
      exact lookUp_directory_kept hk h

end Kept

theorem resolve_eq {directory : Place} (hp : fs.parent path = .ok directory) {name : String}
    (hn : (Path.names path).getLast? = some name) :
    fs.resolve path = fs.lookUp directory name := by
  simp [resolve, hp, hn, bind, Except.bind]

theorem resolve_names {directory : Place} {name : String} (hnull : path.contains '\x00' = false)
    (hempty : path.isEmpty = false) (hlong : path.utf8ByteSize ≤ maxPathBytes)
    (hp : (Path.names path).dropLast.foldlM fs.enter
      (if Path.isAbsolute path then [] else fs.workingDirectory) = .ok directory)
    (hn : (Path.names path).getLast? = some name) :
    fs.resolve path = fs.lookUp directory name := by
  have hparent : fs.parent path = .ok directory := by
    unfold parent
    rw [if_neg (by simp [hnull]), if_neg (by simp [hempty]), if_neg (by omega)]
    exact hp
  exact resolve_eq hparent hn

theorem resolve_cases {found : Found} (h : fs.resolve path = .ok found) :
    (∃ p, found = .existing p .directory) ∨
      ∃ directory name, fs.parent path = .ok directory ∧
        (Path.names path).getLast? = some name ∧ fs.lookUp directory name = .ok found := by
  cases hp : fs.parent path with
  | error e => simp [resolve, hp, bind, Except.bind] at h
  | ok directory =>
    cases hn : (Path.names path).getLast? with
    | none =>
      simp only [resolve, hp, hn, bind, Except.bind] at h
      cases h
      exact .inl ⟨directory, rfl⟩
    | some name => exact .inr ⟨directory, name, rfl, rfl, (resolve_eq hp hn).symm.trans h⟩

def Found.Free (p : Place) : Found → Prop
  | .vacant q => q = p
  | .existing q e => q = p ∧ e ≠ .directory

theorem lookUp_free {directory p : Place} {name : String} {found : Found}
    (h : fs.lookUp directory name = .ok found) (hf : found.Free p) :
    p ≠ [] ∧ fs.find? p ≠ some .directory ∧
      ∀ e, (fs.put p e).lookUp directory name = .ok (.existing p e) := by
  unfold lookUp at h ⊢
  split at h
  next =>
    cases h
    exact absurd rfl hf.2
  next hdot =>
    split at h
    next =>
      cases h
      exact absurd rfl hf.2
    next hup =>
      split at h
      next => cases h
      next hlong =>
        have hne : directory ++ [name] ≠ [] := by simp
        have hput : p = directory ++ [name] → ∀ e, (fs.put p e).find? (directory ++ [name]) =
            some e := by
          rintro rfl e
          rw [find?_put hne, if_pos rfl]
        split at h
        next e he =>
          cases h
          obtain ⟨rfl, hdir⟩ := hf
          refine ⟨hne, by simpa [he] using hdir, fun e => ?_⟩
          rw [if_neg hdot, if_neg hup, if_neg hlong, hput rfl]
        next he =>
          cases h
          obtain rfl : directory ++ [name] = p := hf
          refine ⟨hne, by simp [he], fun e => ?_⟩
          rw [if_neg hdot, if_neg hup, if_neg hlong, hput rfl]

theorem resolve_free {p : Place} {found : Found} (h : fs.resolve path = .ok found)
    (hf : found.Free p) : p ≠ [] ∧ fs.find? p ≠ some .directory ∧
      ∀ e, (fs.put p e).resolve path = .ok (.existing p e) := by
  rcases resolve_cases h with ⟨q, rfl⟩ | ⟨directory, name, hp, hn, hl⟩
  · exact absurd rfl hf.2
  · obtain ⟨hne, hdir, hput⟩ := lookUp_free hl hf
    refine ⟨hne, hdir, fun e => ?_⟩
    have hp' := parent_kept (keepsDirectories_put hne hdir e) hp
    rw [resolve_eq hp' hn, hput]

theorem lookUp_vacant {directory p : Place} {name : String}
    (h : fs.lookUp directory name = .ok (.vacant p)) : fs.find? p = none := by
  unfold lookUp at h
  split at h
  · cases h
  split at h
  · cases h
  split at h
  · cases h
  split at h
  next => cases h
  next hf =>
    cases h
    exact hf

theorem resolve_vacant {p : Place} (h : fs.resolve path = .ok (.vacant p)) :
    fs.find? p = none := by
  rcases resolve_cases h with ⟨q, hq⟩ | ⟨directory, name, -, -, hl⟩
  · cases hq
  · exact lookUp_vacant hl

/-- All is kept but what stands at one place, if any, and what is new elsewhere are directories
that the paths lead to. -/
structure Spares (paths : List String) (touched : Option Place) (fs fs' : FileSystem) : Prop where
  workingDirectory : fs'.workingDirectory = fs.workingDirectory
  kept : ∀ p e, touched ≠ some p → fs.find? p = some e → fs'.find? p = some e
  made : ∀ p e, touched ≠ some p → fs'.find? p = some e → fs.find? p = some e ∨
    e = .directory ∧ ∃ path ∈ paths, fs'.resolve path = .ok (.existing p .directory)

namespace Spares

variable {paths : List String} {fs'' : FileSystem}

theorem refl (paths : List String) (fs : FileSystem) : Spares paths none fs fs where
  workingDirectory := rfl
  kept := fun _ _ _ h => h
  made := fun _ _ _ h => .inl h

theorem keepsDirectories (h : Spares paths none fs fs') : KeepsDirectories fs fs' where
  workingDirectory := h.workingDirectory
  directories := by
    intro p hp
    exact h.kept p _ (by simp) hp

theorem trans (h : Spares paths none fs fs') (h' : Spares paths none fs' fs'') :
    Spares paths none fs fs'' where
  workingDirectory := h'.workingDirectory.trans h.workingDirectory
  kept := by
    intro p e hne hp
    exact h'.kept p e hne (h.kept p e hne hp)
  made := by
    intro p e hne hp
    rcases h'.made p e hne hp with hp | hnew
    · rcases h.made p e hne hp with hp | ⟨rfl, path, hmem, hpath⟩
      · exact .inl hp
      · exact .inr ⟨rfl, path, hmem, resolve_directory_kept h'.keepsDirectories hpath⟩
    · exact .inr hnew

theorem mono {more : List String} (hsub : paths ⊆ more) (h : Spares paths none fs fs') :
    Spares more none fs fs' where
  workingDirectory := h.workingDirectory
  kept := h.kept
  made := by
    intro p e hne hp
    rcases h.made p e hne hp with hp | ⟨rfl, path, hmem, hpath⟩
    · exact .inl hp
    · exact .inr ⟨rfl, path, hsub hmem, hpath⟩

theorem put {p : Place} (h : Spares paths none fs fs') (hne : p ≠ [])
    (hdir : fs'.find? p ≠ some .directory) (e : Entry) :
    Spares paths (some p) fs (fs'.put p e) where
  workingDirectory := h.workingDirectory
  kept := by
    intro q e' hq hold
    have hqp : q ≠ p := by
      rintro rfl
      exact hq rfl
    rw [find?_put hne, if_neg hqp]
    exact h.kept q e' (by simp) hold
  made := by
    intro q e' hq hnew
    have hqp : q ≠ p := by
      rintro rfl
      exact hq rfl
    rw [find?_put hne, if_neg hqp] at hnew
    rcases h.made q e' (by simp) hnew with hold | ⟨rfl, path, hmem, hpath⟩
    · exact .inl hold
    · exact .inr ⟨rfl, path, hmem, resolve_directory_kept (keepsDirectories_put hne hdir e) hpath⟩

end Spares

theorem spares_makeDirectory (h : fs.makeDirectory path = .ok fs') :
    Spares [path] none fs fs' := by
  cases hr : fs.resolve path with
  | error e => simp [makeDirectory, hr, bind, Except.bind] at h
  | ok found =>
    cases found with
    | existing p e => simp [makeDirectory, hr, bind, Except.bind] at h
    | vacant p =>
      obtain ⟨hne, -, hput⟩ := resolve_free hr (p := p) rfl
      have hnone := resolve_vacant hr
      obtain rfl : fs.put p .directory = fs' := by
        simpa [makeDirectory, hr, bind, Except.bind] using h
      refine ⟨rfl, ?_, ?_⟩
      · intro q e _ hq
        have hqp : q ≠ p := by
          rintro rfl
          simp [hnone] at hq
        rw [find?_put hne, if_neg hqp, hq]
      · intro q e _ hq
        rw [find?_put hne] at hq
        split at hq
        next heq =>
          subst heq
          exact .inr ⟨(Option.some.inj hq).symm, path, by simp, hput .directory⟩
        next => exact .inl hq

def makeDirectories : List String → FileSystem → Except SystemError Unit × FileSystem
  | [], fs => (.ok (), fs)
  | path :: above, fs =>
    match fs.makeDirectory path with
    | .ok fs' => (.ok (), fs')
    | .error .notFound =>
      match makeDirectories above fs with
      | (.error e, fs') => (.error e, fs')
      | (.ok (), fs') =>
        match fs'.makeDirectory path with
        | .ok fs'' => (.ok (), fs'')
        | .error e => (if fs'.isDirectory path then .ok () else .error e, fs')
    | .error e => (if fs.isDirectory path then .ok () else .error e, fs)

theorem spares_makeDirectories (paths : List String) (fs : FileSystem) :
    Spares paths none fs (makeDirectories paths fs).2 := by
  induction paths with
  | nil => exact .refl [] fs
  | cons path above ih =>
    have habove : Spares (path :: above) none fs (makeDirectories above fs).2 :=
      ih.mono (by simp)
    have hone {a b : FileSystem} (h : a.makeDirectory path = .ok b) :
        Spares (path :: above) none a b := (spares_makeDirectory h).mono (by simp)
    unfold makeDirectories
    split
    next h => exact hone h
    next =>
      split
      next h =>
        rw [h] at habove
        exact habove
      next h =>
        rw [h] at habove
        split
        next h' => exact habove.trans (hone h')
        next => exact habove
    next => exact .refl _ fs

theorem write_cases {content : ByteArray} (hne : content.isEmpty = false)
    (h : fs.write path content = .ok fs') :
    Path.endsInSlash path = false ∧
      ((∃ p, fs.resolve path = .ok (.existing p .sink) ∧ fs' = fs) ∨
        ∃ p found, fs.resolve path = .ok found ∧ found.Free p ∧
          fs' = fs.put p (.file content)) := by
  cases hs : Path.endsInSlash path with
  | true =>
    cases hp : fs.parent path <;> simp [write, hs, hp, bind, Except.bind] at h
  | false =>
    refine ⟨rfl, ?_⟩
    cases hr : fs.resolve path with
    | error e => simp [write, hs, hr, bind, Except.bind] at h
    | ok found =>
      simp only [write, hs, hr, bind, Except.bind, Bool.false_eq_true, if_false] at h
      cases found with
      | vacant p =>
        cases h
        exact .inr ⟨p, _, rfl, rfl, rfl⟩
      | existing p e =>
        cases e with
        | directory => cases h
        | file old =>
          cases h
          exact .inr ⟨p, _, rfl, ⟨rfl, by simp⟩, rfl⟩
        | full => simp [hne] at h
        | sink =>
          cases h
          exact .inl ⟨p, rfl, rfl⟩

theorem read_file {p : Place} {content : ByteArray} (hs : Path.endsInSlash path = false)
    (h : fs.resolve path = .ok (.existing p (.file content))) : fs.read path = .ok content := by
  simp [read, h, hs, bind, Except.bind]

end WorkflowManifest.FileSystem
