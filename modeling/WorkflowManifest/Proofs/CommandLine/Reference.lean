import WorkflowManifest.Proofs.CommandLine.Occurrence
import WorkflowManifest.Proofs.CommandLine.Parts
import WorkflowManifest.Proofs.Manifest.Reference

namespace WorkflowManifest.CommandLine

def instanceOptions : List ValueOption :=
  [.url, .service, .serviceNamespace, .port, .secret, .secretKey]

/-- The reference has the parts whose options occur, and is there if it has any. -/
structure Referenced (args : List String) (ref : Option InstanceRef) : Prop where
  isSome_iff : ref.isSome ↔ ∃ o ∈ instanceOptions, Occurs o args
  secret_iff : (ref.bind (·.secret)).isSome ↔ Occurs .secret args
  key_iff : ((ref.bind (·.secret)).bind (·.key)).isSome ↔ Occurs .secretKey args

section Assembling

variable {args : List String} {g : Given}

theorem reference_filled {r : InstanceRef} (h : r ∈ g.ref.reference) : r.isEmpty = false := by
  simpa using (Option.filter_eq_some_iff.1 h).2

theorem isEmpty_assembled (h : .option .secret ∉ g.missing) :
    g.ref.assembled.isEmpty = false ↔ ∃ o ∈ instanceOptions, g.has o := by
  -- A secret key has no part of its own, so that its secret has to count for it.
  have hkey : g.has .secretKey → g.has .secret := by simpa [secret_mem_missing] using h
  have hsecret : g.has .secret ∨ g.has .secretKey ↔ g.has .secret := or_iff_left_of_imp hkey
  have hany : (∃ o ∈ instanceOptions, g.has o) ↔ g.has .url ∨ g.has .service ∨
      g.has .serviceNamespace ∨ g.has .port ∨ g.has .secret ∨ g.has .secretKey := by
    simp [instanceOptions]
  rw [hany, hsecret]
  simp only [InstanceRef.isEmpty, InstanceArguments.assembled, Bool.and_eq_false_iff,
    Option.isNone_eq_false_iff, Option.isSome_map, Given.has, or_assoc]

theorem referenced_of_gathered (hg : gathered args = .ok g) (h : .option .secret ∉ g.missing) :
    Referenced args g.ref.reference := by
  have hhas := has_of_gathered hg
  -- Only an empty reference is dropped, and then none of its options has been given.
  cases hempty : g.ref.assembled.isEmpty with
  | true =>
    have hnone : ∀ o ∈ instanceOptions, ¬ Occurs o args := by
      intro o ho hoccurs
      have hsome := (isEmpty_assembled h).2 ⟨o, ho, (hhas o).2 hoccurs⟩
      exact absurd (hempty.symm.trans hsome) (by decide)
    have href : g.ref.reference = none := by simp [InstanceArguments.reference, hempty]
    rw [href]
    exact ⟨by simpa using hnone, by simpa using hnone .secret (by decide),
      by simpa using hnone .secretKey (by decide)⟩
  | false =>
    have href : g.ref.reference = some g.ref.assembled := by
      simp [InstanceArguments.reference, hempty]
    rw [href]
    refine ⟨?_, ?_, ?_⟩
    · simpa [hhas] using (isEmpty_assembled h).1 hempty
    · rw [← hhas]
      simp [InstanceArguments.assembled, Given.has]
    · rw [secret_mem_missing] at h
      rw [← hhas]
      cases hsecret : g.ref.secret with
      | none => simpa [InstanceArguments.assembled, Given.has, hsecret] using h
      | some name => simp [InstanceArguments.assembled, Given.has, hsecret]

end Assembling

def NoneMissing {α : Type} (x : Except Stop α) : Prop := ∀ as, x ≠ .error (.rejected (.missing as))

section Reading

variable {α β : Type} {args : List String} {g : Given} {s : State}

theorem NoneMissing.bind {x : Except Stop α} {f : α → Except Stop β} (hx : NoneMissing x)
    (hf : ∀ a, NoneMissing (f a)) : NoneMissing (x >>= f) := by
  intro as h
  obtain h | ⟨a, -, h⟩ := bind_eq_error_iff.1 h
  · exact hx as h
  · exact hf a as h

theorem NoneMissing.ok (a : α) : NoneMissing (.ok a) := by
  intro as h
  cases h

theorem settle_ne_missing (g : Given) (pending : Pending) (as : List Argument) :
    g.settle pending ≠ .error (.missing as) := by
  have hset (value : String) (o : ValueOption) : g.set value o ≠ .error (.missing as) := by
    cases o <;> simp only [Given.set, ne_eq, reduceCtorEq, not_false_iff]
    · split
      · simp
      · split <;> simp
    · split <;> simp
    · split <;> simp
  cases pending with
  | nothing => simp [Given.settle]
  | file path =>
    rw [Given.settle]
    split <;> simp
  | option o value =>
    cases value with
    | none => simp [Given.settle]
    | some value =>
      rw [Given.settle]
      split
      · simp
      · exact hset value o

theorem noneMissing_settle (g : Given) (pending : Pending) :
    NoneMissing ((g.settle pending).mapError .rejected) := by
  intro as h
  obtain ⟨r, hr, heq⟩ := mapError_eq_error_iff.1 h
  cases heq
  exact settle_ne_missing g pending as hr

theorem noneMissing_raise (f : Flag) : NoneMissing (g.raise f) := by
  intro as
  cases f with
  | inactive =>
    rw [Given.raise]
    split <;> simp
  | debug =>
    rw [Given.raise]
    split <;> simp
  | help => simp [Given.raise]
  | version => simp [Given.raise]

theorem noneMissing_takeOption (o : ValueOption) (value : Option String) :
    NoneMissing (s.takeOption o value) := by
  cases value with
  | none => exact (noneMissing_settle _ _).bind fun _ => .ok _
  | some value =>
    exact (noneMissing_settle _ _).bind fun _ => (noneMissing_settle _ _).bind fun _ => .ok _

theorem noneMissing_takeFlag (f : Flag) : NoneMissing (s.takeFlag f) :=
  (noneMissing_settle _ _).bind fun _ => (noneMissing_raise f).bind fun _ => .ok _

theorem noneMissing_takeFile (value : String) : NoneMissing (s.takeFile value) := by
  rw [State.takeFile]
  split
  · simp [NoneMissing]
  · exact (noneMissing_settle _ _).bind fun _ => .ok _

theorem noneMissing_takeLong (cs : List Char) : NoneMissing (s.takeLong cs) := by
  simp only [State.takeLong]
  split
  · exact noneMissing_takeOption _ _
  · exact noneMissing_takeFlag _
  · simp [NoneMissing]
  · simp [NoneMissing]

theorem noneMissing_takeShort (letter : Char) (cs : List Char) :
    NoneMissing (s.takeShort letter cs) := by
  rw [State.takeShort]
  split
  · exact noneMissing_takeOption _ _
  · exact (noneMissing_settle _ _).bind fun _ => by simp [NoneMissing]
  · exact noneMissing_takeFlag _
  · simp [NoneMissing]

theorem noneMissing_takePlain (arg : String) : NoneMissing (s.takePlain arg) := by
  rw [State.takePlain]
  split
  · exact .ok _
  · exact noneMissing_takeFile arg

theorem noneMissing_step (arg : String) : NoneMissing (s.step arg) := by
  rw [State.step]
  split
  · exact noneMissing_takeFile arg
  split
  · exact .ok _
  · exact noneMissing_takeLong _
  · exact noneMissing_takeShort _ _
  · exact noneMissing_takePlain arg

theorem noneMissing_foldlM (args : List String) : NoneMissing (args.foldlM State.step s) := by
  induction args generalizing s with
  | nil => exact .ok s
  | cons arg args ih => exact (noneMissing_step arg).bind fun _ => ih

theorem noneMissing_gathered (args : List String) : NoneMissing (gathered args) :=
  (noneMissing_foldlM args).bind fun _ => noneMissing_settle _ _

theorem read_eq (args : List String) :
    read args = gathered args >>= fun g =>
      if g.missing.isEmpty then return g else .error (.rejected (.missing g.missing)) := by
  rw [gathered, bind_assoc]
  rfl

theorem read_ok_iff : read args = .ok g ↔ gathered args = .ok g ∧ g.missing = [] := by
  rw [read_eq, bind_eq_ok_iff]
  constructor
  · rintro ⟨g', hg, h⟩
    split at h
    next hnone =>
      cases h
      exact ⟨hg, List.isEmpty_iff.1 hnone⟩
    next => cases h
  · rintro ⟨hg, hnone⟩
    refine ⟨g, hg, ?_⟩
    rw [hnone]
    rfl

theorem read_missing_iff {as : List Argument} :
    read args = .error (.rejected (.missing as)) ↔
      as ≠ [] ∧ ∃ g, gathered args = .ok g ∧ g.missing = as := by
  rw [read_eq, bind_eq_error_iff, or_iff_right (noneMissing_gathered args as)]
  constructor
  · rintro ⟨g, hg, h⟩
    split at h
    next => cases h
    next hsome =>
      cases h
      exact ⟨fun hnone => hsome (List.isEmpty_iff.2 hnone), g, hg, rfl⟩
  · rintro ⟨hsome, g, hg, rfl⟩
    refine ⟨g, hg, ?_⟩
    rw [if_neg fun hnone => hsome (List.isEmpty_iff.1 hnone)]

end Reading

/-- An accepted command line gives the reference that its options make, and every conversion carries
it into the manifest as it is. The command lines that give none are those that miss the secret of a
secret key. Whatever the options of a conversion, no manifest holds an empty reference. -/
theorem reference_carried (args : List String) :
    (∀ g, read args = .ok g → ∃ r, g.parts = .ok r ∧ Referenced args r.options.instanceRef ∧
      ∀ fields d,
        (Converter.convert ⟨r.options, fields⟩ d).instanceRef = r.options.instanceRef ∧
        ∀ es, (Converter.convert ⟨r.options, fields⟩ d).written = .ok es →
          (Json.obj es).follow? ["spec", "n8nRef"] = r.options.instanceRef.map InstanceRef.tree) ∧
    ((∃ as, read args = .error (.rejected (.missing as)) ∧ .option .secret ∈ as) ↔
      ∃ g, gathered args = .ok g ∧ ∃ p, g.parts = .error p) ∧
    ∀ (c : Converter) (ds : List Document) (text : String),
      Manifest.render (ds.map c.convert) = .ok text →
        ∃ trees, List.Forall₂ (fun d es => (c.convert d).written = .ok es) ds trees ∧
          text = Manifest.ofTrees trees ∧ ∀ es ∈ trees, ∀ x,
            (Json.obj es).follow? ["spec", "n8nRef"] = some x → ∃ e fs, x = .obj (e :: fs) := by
  refine ⟨fun g hread => ?_, ?_, fun c ds text => Manifest.references_filled⟩
  · obtain ⟨hg, hmissing⟩ := read_ok_iff.1 hread
    have hsecret : .option .secret ∉ g.missing := by simp [hmissing]
    refine ⟨_, parts_of_secret hsecret, referenced_of_gathered hg hsecret, fun fields d => ?_⟩
    have hconvert := Converter.instanceRef_convert ⟨(g.request g.ref.reference).options, fields⟩
      (fun r hr => reference_filled hr) d
    refine ⟨hconvert, fun es hes => ?_⟩
    rw [Resource.follow?_reference hes, hconvert]
  · simp only [read_missing_iff, parts_error_iff]
    constructor
    · rintro ⟨_, ⟨-, g, hg, rfl⟩, hsecret⟩
      exact ⟨g, hg, hsecret⟩
    · rintro ⟨g, hg, hsecret⟩
      exact ⟨g.missing, ⟨List.ne_nil_of_mem hsecret, g, hg, rfl⟩, hsecret⟩

def secretArgs : List String := ["--api-key-secret=", "w.json", "--n8n-port", "80"]

def nameless : InstanceRef := { port := some 80, secret := some { name := "", key := none } }

def keyArgs : List String := ["--api-key-secret-key", "k", "w.json"]

def hollow : Options := { instanceRef := some {} }

theorem reference_carried_secret :
    (∃ g r, read secretArgs = .ok g ∧ g.parts = .ok r ∧
        r.options.instanceRef = some nameless ∧
        Occurs .secret secretArgs ∧ ¬ Occurs .secretKey secretArgs ∧
        ∀ d, ((Converter.ofOptions r.options).convert d).instanceRef = r.options.instanceRef) ∧
      (∃ g, gathered keyArgs = .ok g ∧ ∃ p, g.parts = .error p) ∧
      ∃ text, Manifest.render ([⟨[]⟩].map (Converter.ofOptions hollow).convert) = .ok text ∧
        ∃ trees, text = Manifest.ofTrees trees ∧ ∀ es ∈ trees, ∀ x,
          (Json.obj es).follow? ["spec", "n8nRef"] = some x → ∃ e fs, x = .obj (e :: fs) := by
  refine ⟨?_, ?_, ?_⟩
  · obtain ⟨g, hg⟩ : ∃ g, read secretArgs = .ok g := ⟨_, rfl⟩
    obtain ⟨haccepted, -, -⟩ := reference_carried secretArgs
    obtain ⟨r, hr, href, hcarried⟩ := haccepted g hg
    have hvalue : r.options.instanceRef = some nameless := by
      cases hg
      cases hr
      rfl
    refine ⟨g, r, hg, hr, hvalue, ?_, ?_, fun d => (hcarried _ d).1⟩
    · rw [← href.secret_iff, hvalue]
      rfl
    · rw [← href.key_iff, hvalue]
      decide
  · obtain ⟨-, hagree, -⟩ := reference_carried keyArgs
    exact hagree.1 ⟨[.option .secret], rfl, List.mem_singleton_self _⟩
  · obtain ⟨text, htext⟩ :
        ∃ text, Manifest.render ([⟨[]⟩].map (Converter.ofOptions hollow).convert) = .ok text :=
      ⟨_, rfl⟩
    obtain ⟨-, -, hfilled⟩ := reference_carried []
    obtain ⟨trees, -, htrees⟩ := hfilled _ _ text htext
    exact ⟨text, htext, trees, htrees⟩

end WorkflowManifest.CommandLine
