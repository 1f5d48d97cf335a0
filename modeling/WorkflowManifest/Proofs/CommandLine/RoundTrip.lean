import Mathlib.Data.List.TakeWhile
import WorkflowManifest.Proofs.CommandLine.Spelling

/-!
A command line that spells a request is read as that request. After each part the reader has what
the request says about the arguments seen so far, once the last value has been looked at.
-/

namespace WorkflowManifest.CommandLine

def Request.output? (r : Request) : Option String :=
  match r.target with
  | .stdout => none
  | .file path => some path

def Request.given (r : Request) (seen : List Argument) : Given where
  file := if .workflowFile ∈ seen then some r.file else none
  inNamespace := if .option .inNamespace ∈ seen then some r.options.inNamespace else none
  inactive := decide (.flag .inactive ∈ seen)
  syncPolicy := if .option .syncPolicy ∈ seen then r.options.syncPolicy else none
  ref :=
    { url := if .option .url ∈ seen then r.ref.url else none
      service := if .option .service ∈ seen then r.ref.name else none
      inNamespace := if .option .serviceNamespace ∈ seen then r.ref.inNamespace else none
      port := if .option .port ∈ seen then r.ref.port else none
      secret := if .option .secret ∈ seen then r.ref.secret.map (·.name) else none
      secretKey := if .option .secretKey ∈ seen then r.ref.secret.bind (·.key) else none }
  output := if .option .output ∈ seen then r.output? else none
  debug := decide (.flag .debug ∈ seen)

section Settling

variable {r : Request} {seen : List Argument}

theorem has_given {o : ValueOption} (ho : .option o ∉ seen) : (r.given seen).has o = false := by
  cases o <;> simp [Request.given, Given.has, ho]

theorem set_given (hr : r.Sayable) {o : ValueOption} {text : String} (h : r.Gives o text) :
    (r.given seen).set text o = .ok (r.given (.option o :: seen)) := by
  cases o with
  | syncPolicy =>
    obtain ⟨p, hp, htext⟩ := h
    have hne : text.isEmpty = false := by simpa using ne_empty_of_inAnyCase htext
    simp [Given.set, Request.given, hne, readPolicy?_of_inAnyCase htext, hp]
  | port =>
    obtain ⟨p, hp, htext⟩ := h
    simp [Given.set, Request.given, readPortNumber_of_isDecimal htext, hp]
  | secret =>
    obtain ⟨s, hs, rfl⟩ := h
    simp [Given.set, Request.given, hs]
  | secretKey =>
    obtain ⟨s, hs, hkey⟩ := h
    simp [Given.set, Request.given, hs, hkey]
  | output =>
    rw [Request.Gives] at h
    have hne : text.isEmpty = false := by
      have htarget := hr.target
      rw [h] at htarget
      simpa using htarget
    simp [Given.set, Request.given, Request.output?, hne, h]
  | _ =>
    rw [Request.Gives] at h
    simp [Given.set, Request.given, h]

theorem settle_option (hr : r.Sayable) {o : ValueOption} {text : String} (h : r.Gives o text)
    (ho : .option o ∉ seen) : (r.given seen).settle (.option o (some text)) =
      .ok (r.given (.option o :: seen)) := by
  rw [Given.settle, has_given ho]
  exact set_given hr h

theorem settle_file (hr : r.Sayable) (seen : List Argument) :
    (r.given seen).settle (.file r.file) = .ok (r.given (.workflowFile :: seen)) := by
  have hne : r.file.isEmpty = false := by simpa using hr.file
  simp [Given.settle, Request.given, hne]

theorem raise_given {f : Flag} (h : r.Raises f) (hf : .flag f ∉ seen) :
    (r.given seen).raise f = .ok (r.given (.flag f :: seen)) := by
  cases f with
  | inactive => simp [Given.raise, Request.given, hf]
  | debug => simp [Given.raise, Request.given, hf]
  | help => exact h.elim
  | version => exact h.elim

end Settling

namespace State

section Names

theorem all_ne_of_not_mem {cs : List Char} (h : '=' ∉ cs) : ∀ c ∈ cs, decide (c ≠ '=') = true := by
  intro c hc
  rw [decide_eq_true_iff]
  rintro rfl
  exact h hc

theorem splitValue_name {name : String} (h : '=' ∉ name.toList) :
    splitValue name.toList = (name, none) := by
  have hall := all_ne_of_not_mem h
  rw [splitValue, List.takeWhile_eq_self_iff.2 hall, List.dropWhile_eq_nil_iff.2 hall,
    String.ofList_toList]

theorem splitValue_attached {name : String} (h : '=' ∉ name.toList) (value : String) :
    splitValue (name.toList ++ '=' :: value.toList) = (name, some value) := by
  have hall := all_ne_of_not_mem h
  rw [splitValue, List.takeWhile_append_of_pos hall, List.dropWhile_append_of_pos hall]
  simp

theorem name_plain (o : ValueOption) : '=' ∉ o.name.toList ∧ o.name.toList ≠ [] := by
  cases o <;> decide

theorem flag_name_plain (f : Flag) : '=' ∉ f.name.toList ∧ f.name.toList ≠ [] := by
  cases f <;> decide

theorem ofName?_option (o : ValueOption) : Argument.ofName? o.name = some (.option o) := by
  cases o <;> decide

theorem ofName?_flag (f : Flag) : Argument.ofName? f.name = some (.flag f) := by
  cases f <;> decide

end Names

variable {s : State}

theorem step_long (hs : s.escaped = false) {arg : String} {cs : List Char}
    (harg : arg.toList = '-' :: '-' :: cs) (hcs : cs ≠ []) : s.step arg = s.takeLong cs := by
  rw [step, hs, harg]
  cases cs with
  | nil => exact absurd rfl hcs
  | cons c cs => rfl

theorem step_plain (hs : s.escaped = false) {arg : String} (harg : arg.toList.head? ≠ some '-') :
    s.step arg = s.takePlain arg := by
  rw [step, hs]
  simp only [Bool.false_eq_true, if_false]
  split <;> simp_all

theorem step_option (hs : s.escaped = false) (o : ValueOption) :
    s.step ("--" ++ o.name) = s.takeOption o none := by
  obtain ⟨heq, hne⟩ := name_plain o
  rw [step_long hs (String.toList_append) hne]
  simp [takeLong, splitValue_name heq, ofName?_option]

theorem step_attached (hs : s.escaped = false) (o : ValueOption) (value : String) :
    s.step ("--" ++ o.name ++ "=" ++ value) = s.takeOption o (some value) := by
  obtain ⟨heq, hne⟩ := name_plain o
  have harg : ("--" ++ o.name ++ "=" ++ value).toList =
      '-' :: '-' :: (o.name.toList ++ '=' :: value.toList) := by
    simp [String.toList_append]
  rw [step_long hs harg (by simp)]
  simp [takeLong, splitValue_attached heq, ofName?_option]

theorem step_flag (hs : s.escaped = false) (f : Flag) :
    s.step ("--" ++ f.name) = s.takeFlag f := by
  obtain ⟨heq, hne⟩ := flag_name_plain f
  rw [step_long hs (String.toList_append) hne]
  simp [takeLong, splitValue_name heq, ofName?_flag]

section Taking

variable {g g' : Given}

theorem takeFile_ok {path : String} (hs : s.settled = .ok g) (hfile : s.fileSeen = false) :
    s.takeFile path =
      .ok { s with given := g, pending := .file path, fileSeen := true } := by
  simp only [takeFile, hfile, hs]
  rfl

theorem takeOption_none (hs : s.settled = .ok g) (o : ValueOption) :
    s.takeOption o none = .ok { s with given := g, pending := .option o none } := by
  simp only [takeOption, hs]
  rfl

theorem takeOption_some (hs : s.settled = .ok g) {o : ValueOption} {text : String}
    (ho : g.settle (.option o (some text)) = .ok g') :
    s.takeOption o (some text) = .ok { s with given := g', pending := .nothing } := by
  simp only [takeOption, hs, bind, Except.bind, ho]
  rfl

theorem takeFlag_ok (hs : s.settled = .ok g) {f : Flag} (hf : g.raise f = .ok g') :
    s.takeFlag f = .ok { s with given := g', pending := .nothing } := by
  simp only [takeFlag, hs, bind, Except.bind, hf]
  rfl

end Taking

/-- What has been read so far is what the request says, once what is pending has been looked at. -/
structure Reads (s : State) (r : Request) (seen : List Argument) : Prop where
  settled : s.settled = .ok (r.given seen)
  unescaped : s.escaped = false
  fileSeen : s.fileSeen = decide (.workflowFile ∈ seen)

section Parts

variable {r : Request} {seen : List Argument}

theorem reads_start (r : Request) : Reads {} r [] := ⟨rfl, rfl, rfl⟩

theorem Reads.pending (h : s.Reads r seen) (o : ValueOption) : s.pending ≠ .option o none := by
  intro hp
  have hs := h.settled
  rw [State.settled, hp] at hs
  cases hs

theorem takePlain_file (h : s.Reads r seen) (path : String) :
    s.takePlain path = s.takeFile path := by
  unfold takePlain
  split
  next o hp => exact absurd hp (h.pending o)
  next => rfl

theorem foldlM_one {arg : String} {t : State} (h : s.step arg = .ok t) :
    List.foldlM step s [arg] = .ok t := by
  simp only [List.foldlM_cons, h]
  rfl

theorem settled_takeFile (hr : r.Sayable) (hsettled : s.settled = .ok (r.given seen))
    (hfile : s.fileSeen = false) :
    ∃ t, s.takeFile r.file = .ok t ∧ t.settled = .ok (r.given (.workflowFile :: seen)) ∧
      t.escaped = s.escaped ∧ t.fileSeen = true := by
  refine ⟨_, takeFile_ok hsettled hfile, ?_, rfl, rfl⟩
  rw [State.settled, settle_file hr seen]
  rfl

theorem reads_file (hr : r.Sayable) (h : s.Reads r seen) (hnew : .workflowFile ∉ seen)
    (hplain : r.file.toList.head? ≠ some '-') :
    ∃ t, s.step r.file = .ok t ∧ t.Reads r (.workflowFile :: seen) := by
  have hfile : s.fileSeen = false := by simp [h.fileSeen, hnew]
  obtain ⟨t, ht, hsettled, hescaped, hseen⟩ := settled_takeFile hr h.settled hfile
  rw [step_plain h.unescaped hplain, takePlain_file h]
  exact ⟨t, ht, hsettled, hescaped.trans h.unescaped, by simp [hseen]⟩

theorem settled_escaped (hr : r.Sayable) (h : s.Reads r seen) (hnew : .workflowFile ∉ seen) :
    ∃ t, List.foldlM step s ["--", r.file] = .ok t ∧
      t.settled = .ok (r.given (.workflowFile :: seen)) := by
  have hfile : s.fileSeen = false := by simp [h.fileSeen, hnew]
  have hescape : s.step "--" = .ok { s with escaped := true } := by
    rw [step, h.unescaped]
    rfl
  have hsettled : State.settled { s with escaped := true } = .ok (r.given seen) := h.settled
  obtain ⟨t, ht, hsettled, _⟩ := settled_takeFile hr hsettled hfile
  refine ⟨t, ?_, hsettled⟩
  simp only [List.foldlM_cons, hescape]
  exact foldlM_one ht

theorem reads_attached (hr : r.Sayable) (h : s.Reads r seen) {o : ValueOption} {text : String}
    (ho : r.Gives o text) (hnew : .option o ∉ seen) :
    ∃ t, s.step ("--" ++ o.name ++ "=" ++ text) = .ok t ∧ t.Reads r (.option o :: seen) := by
  rw [step_attached h.unescaped]
  exact ⟨_, takeOption_some h.settled (settle_option hr ho hnew), rfl, h.unescaped,
    by simp [h.fileSeen]⟩

theorem reads_apart (hr : r.Sayable) (h : s.Reads r seen) {o : ValueOption} {text : String}
    (ho : r.Gives o text) (hnew : .option o ∉ seen) (hplain : text.toList.head? ≠ some '-') :
    ∃ t, List.foldlM step s ["--" ++ o.name, text] = .ok t ∧ t.Reads r (.option o :: seen) := by
  let waiting : State := { s with given := r.given seen, pending := .option o none }
  have hwaiting : s.step ("--" ++ o.name) = .ok waiting :=
    (step_option h.unescaped o).trans (takeOption_none h.settled o)
  have hplain : waiting.step text = waiting.takePlain text :=
    step_plain (show waiting.escaped = false from h.unescaped) hplain
  have hvalue : waiting.step text = .ok { waiting with pending := .option o (some text) } :=
    hplain.trans rfl
  refine ⟨{ waiting with pending := .option o (some text) }, ?_, ?_, h.unescaped, ?_⟩
  · simp only [List.foldlM_cons, List.foldlM_nil, hwaiting, bind, Except.bind, hvalue]
    rfl
  · rw [State.settled, settle_option hr ho hnew]
    rfl
  · simp [waiting, h.fileSeen]

theorem reads_flag (h : s.Reads r seen) {f : Flag} (hf : r.Raises f) (hnew : .flag f ∉ seen) :
    ∃ t, s.step ("--" ++ f.name) = .ok t ∧ t.Reads r (.flag f :: seen) := by
  rw [step_flag h.unescaped]
  exact ⟨_, takeFlag_ok h.settled (raise_given hf hnew), rfl, h.unescaped, by simp [h.fileSeen]⟩

theorem reads_part (hr : r.Sayable) (h : s.Reads r seen) {p : Part} (hp : r.Tells p)
    (hplain : p.Plain) (hnew : p.argument ∉ seen) :
    ∃ t, p.texts.foldlM step s = .ok t ∧ t.Reads r (p.argument :: seen) := by
  cases p with
  | file path =>
    obtain rfl : path = r.file := hp
    obtain ⟨t, ht, hreads⟩ := reads_file hr h hnew hplain
    exact ⟨t, foldlM_one ht, hreads⟩
  | option o text attached =>
    cases attached with
    | true =>
      obtain ⟨t, ht, hreads⟩ := reads_attached hr h hp hnew
      exact ⟨t, foldlM_one ht, hreads⟩
    | false => exact reads_apart hr h hp hnew hplain
  | flag f =>
    obtain ⟨t, ht, hreads⟩ := reads_flag h hp hnew
    exact ⟨t, foldlM_one ht, hreads⟩

theorem reads_parts (hr : r.Sayable) (h : s.Reads r seen) {parts : List Part}
    (hparts : ∀ p ∈ parts, r.Tells p ∧ p.Plain)
    (hnew : (parts.map Part.argument).Disjoint seen) (honce : (parts.map Part.argument).Nodup) :
    ∃ t seen', (parts.flatMap Part.texts).foldlM step s = .ok t ∧ t.Reads r seen' ∧
      ∀ a, a ∈ seen' ↔ a ∈ parts.map Part.argument ∨ a ∈ seen := by
  induction parts generalizing s seen with
  | nil => exact ⟨s, seen, rfl, h, by simp⟩
  | cons p parts ih =>
    obtain ⟨⟨hp, hplain⟩, hparts⟩ := List.forall_mem_cons.1 hparts
    obtain ⟨hfirst, honce⟩ := List.nodup_cons.1 honce
    obtain ⟨hpnew, hnew⟩ := List.disjoint_cons_left.1 hnew
    obtain ⟨t, ht, hreads⟩ := reads_part hr h hp hplain hpnew
    obtain ⟨u, seen', hu, hreads', hseen⟩ :=
      ih hreads hparts (List.disjoint_cons_right.2 ⟨hfirst, hnew⟩) honce
    refine ⟨u, seen', ?_, hreads', ?_⟩
    · simp only [List.flatMap_cons, List.foldlM_append, ht]
      exact hu
    · intro a
      rw [hseen, List.map_cons, List.mem_cons, List.mem_cons]
      exact or_left_comm.trans or_assoc.symm

end Parts

end State

namespace Request

variable {r : Request} {seen : List Argument}

/-- All that the request needs has been seen, and no flag that it does not raise. -/
structure Seen (r : Request) (seen : List Argument) : Prop where
  needs : ∀ a, r.Needs a → a ∈ seen
  raises : ∀ f, .flag f ∈ seen → r.Raises f

theorem Seen.option (h : r.Seen seen) {o : ValueOption} (ho : o ≠ .inNamespace)
    (hgives : ∃ text, r.Gives o text) : .option o ∈ seen :=
  h.needs _ ((needs_option ho).2 hgives)

theorem Seen.inNamespace (h : r.Seen seen) :
    (r.given seen).inNamespace.getD defaultNamespace = r.options.inNamespace := by
  by_cases hseen : .option .inNamespace ∈ seen
  · simp [given, hseen]
  · have hdefault : r.options.inNamespace = defaultNamespace := by
      by_contra hne
      exact hseen (h.needs _ ⟨_, rfl, fun hboth => hne hboth.2⟩)
    simp [given, hseen, hdefault]

theorem Seen.flag (h : r.Seen seen) (f : Flag) : decide (.flag f ∈ seen) = true ↔ r.Raises f :=
  decide_eq_true_iff.trans ⟨h.raises f, h.needs (.flag f)⟩

theorem kept_eq {α : Type} {a : Argument} {x : Option α} (h : ∀ y, x = some y → a ∈ seen) :
    (if a ∈ seen then x else none) = x := by
  cases x with
  | none => split <;> rfl
  | some y => rw [if_pos (h y rfl)]

theorem Seen.syncPolicy (h : r.Seen seen) :
    (r.given seen).syncPolicy = r.options.syncPolicy :=
  kept_eq fun p hp => h.option (by decide) ⟨p.name, p, hp, .refl p.name⟩

theorem Seen.output (h : r.Seen seen) : (r.given seen).output = r.output? := by
  apply kept_eq
  intro path hpath
  apply h.option (by decide)
  refine ⟨path, ?_⟩
  rw [output?] at hpath
  split at hpath
  · cases hpath
  next htarget =>
    cases hpath
    exact htarget

theorem Seen.ref (h : r.Seen seen) : (r.given seen).ref =
    { url := r.ref.url, service := r.ref.name, inNamespace := r.ref.inNamespace,
      port := r.ref.port, secret := r.ref.secret.map (·.name),
      secretKey := r.ref.secret.bind (·.key) } := by
  rw [given, InstanceArguments.mk.injEq]
  refine ⟨kept_eq ?_, kept_eq ?_, kept_eq ?_, kept_eq ?_, kept_eq ?_, kept_eq ?_⟩
  · exact fun url hurl => h.option (by decide) ⟨url, hurl⟩
  · exact fun name hname => h.option (by decide) ⟨name, hname⟩
  · exact fun name hname => h.option (by decide) ⟨name, hname⟩
  · intro p hp
    obtain ⟨text, htext⟩ := exists_isDecimal p.toNat
    exact h.option (by decide) ⟨text, p, hp, htext⟩
  · intro name hname
    obtain ⟨s, hs, hname⟩ := Option.map_eq_some_iff.1 hname
    exact h.option (by decide) ⟨name, s, hs, hname⟩
  · intro key hkey
    obtain ⟨s, hs, hkey⟩ := Option.bind_eq_some_iff.1 hkey
    exact h.option (by decide) ⟨key, s, hs, hkey⟩

theorem missing_given (h : r.Seen seen) : (r.given seen).missing = [] := by
  have hfile : (r.given seen).file = some r.file := if_pos (h.needs .workflowFile trivial)
  rw [Given.missing, hfile, h.ref]
  cases hs : r.ref.secret with
  | none => rfl
  | some s => simp

theorem instanceRef_given (hr : r.Sayable) (h : r.Seen seen) :
    (r.given seen).ref.instanceRef = .ok r.options.instanceRef := by
  have hsecret : (r.given seen).ref.secretRef = .ok r.ref.secret := by
    rw [h.ref, InstanceArguments.secretRef]
    cases hs : r.ref.secret <;> rfl
  rw [InstanceArguments.instanceRef, hsecret, h.ref]
  cases href : r.options.instanceRef with
  | none =>
    have hempty : r.ref = {} := by rw [ref, href]; rfl
    rw [hempty]
    rfl
  | some ref =>
    have hsome : r.ref = ref := by rw [Request.ref, href]; rfl
    have hne := hr.ref ref href
    rw [hsome]
    simp [Except.map, Option.filter, hne]

theorem parts_given (hr : r.Sayable) (h : r.Seen seen) : (r.given seen).parts = .ok r := by
  have hfile : (r.given seen).file = some r.file := if_pos (h.needs .workflowFile trivial)
  have hactive : (!(r.given seen).inactive) = r.options.active := by
    have hflag := h.flag .inactive
    rw [Raises] at hflag
    cases hactive : r.options.active <;> simp_all [given]
  have hdebug : (r.given seen).debug = r.debug := by
    have hflag := h.flag .debug
    rw [Raises] at hflag
    cases hdebug : r.debug <;> simp_all [given]
  have htarget : (r.given seen).target = r.target := by
    rw [Given.target, h.output, output?]
    cases r.target <;> rfl
  rw [Given.parts, instanceRef_given hr h]
  simp only [Except.map, Given.request, hfile, h.inNamespace, hactive, h.syncPolicy, htarget,
    hdebug]
  rfl

end Request

theorem read_of_settled {r : Request} {args : List String} {s : State} {seen : List Argument}
    (hrun : args.foldlM State.step {} = .ok s) (hsettled : s.settled = .ok (r.given seen))
    (h : r.Seen seen) : read args = .ok (r.given seen) := by
  simp only [read, hrun, hsettled, bind, Except.bind, Request.missing_given h]
  rfl

theorem Request.Covered.raises {r : Request} {parts : List Part} (h : r.Covered parts) {f : Flag}
    (hf : .flag f ∈ parts.map Part.argument) : r.Raises f := by
  obtain ⟨p, hp, hpf⟩ := List.mem_map.1 hf
  have hright := h.right p hp
  cases p with
  | flag g =>
    cases hpf
    exact hright
  | file path => cases hpf
  | option o text attached => cases hpf

theorem Request.Covered.reads {r : Request} (hr : r.Sayable) {parts : List Part}
    (h : r.Covered parts) :
    ∃ s seen, (parts.flatMap Part.texts).foldlM State.step {} = .ok s ∧ s.Reads r seen ∧
      (∀ a, a ∈ seen ↔ a ∈ parts.map Part.argument) := by
  have hparts : ∀ p ∈ parts, r.Tells p ∧ p.Plain := fun p hp => ⟨h.right p hp, h.plain p hp⟩
  obtain ⟨s, seen, hrun, hreads, hseen⟩ :=
    State.reads_parts hr (State.reads_start r) hparts (List.disjoint_nil_right _) h.once
  exact ⟨s, seen, hrun, hreads, by simpa using hseen⟩

/-- Every request that can be said has a command line, and each of its command lines is accepted
and gives back the path, the options and the target. -/
theorem read_parts_of_spelled {r : Request} (hr : r.Sayable) :
    (∃ args, r.Spelled args) ∧
      ∀ args, r.Spelled args → ∃ g, read args = .ok g ∧ g.parts = .ok r := by
  refine ⟨r.exists_spelled, ?_⟩
  rintro _ (⟨h, hfile⟩ | ⟨h, hfile⟩)
  · obtain ⟨s, seen, hrun, hreads, hseen⟩ := h.reads hr
    have hall : r.Seen seen := by
      refine ⟨fun a ha => (hseen a).2 ?_, fun f hf => h.raises ((hseen _).1 hf)⟩
      by_cases hne : a = .workflowFile
      · rwa [hne]
      · exact h.needs a ha hne
    exact ⟨_, read_of_settled hrun hreads.settled hall, Request.parts_given hr hall⟩
  · obtain ⟨s, seen, hrun, hreads, hseen⟩ := h.reads hr
    have hall : r.Seen (.workflowFile :: seen) := by
      refine ⟨fun a ha => List.mem_cons.2 ?_, ?_⟩
      · by_cases hne : a = .workflowFile
        · exact .inl hne
        · exact .inr ((hseen a).2 (h.needs a ha hne))
      · intro f hf
        cases List.mem_cons.1 hf with
        | inl heq => cases heq
        | inr hmem => exact h.raises ((hseen _).1 hmem)
    obtain ⟨t, ht, hsettled⟩ :=
      State.settled_escaped hr hreads (fun hmem => hfile ((hseen _).1 hmem))
    refine ⟨_, read_of_settled ?_ hsettled hall, Request.parts_given hr hall⟩
    rw [List.foldlM_append, hrun]
    exact ht

def unrulyRequest : Request where
  file := "--debug"
  options :=
    { inNamespace := ""
      active := false
      syncPolicy := some .createOnly
      instanceRef := some
        { url := some "-n", name := some "a=b", port := some 80,
          secret := some { name := " ", key := some "=" } } }
  target := .file "-"
  debug := false

def unrulyParts : List Part :=
  [.option .port "080" false, .flag .inactive, .option .secretKey "=" true,
    .option .syncPolicy "cREATEonly" false, .option .url "-n" true, .option .inNamespace "" false,
    .option .output "-" true, .option .secret " " false, .option .service "a=b" true]

theorem unruly_covered : unrulyRequest.Covered unrulyParts where
  once := by decide
  right := by
    simp only [unrulyParts, List.forall_mem_cons]
    refine ⟨⟨80, rfl, 0, [8, 0], rfl, rfl⟩, rfl, ⟨_, rfl, rfl⟩, ⟨.createOnly, rfl, ?_⟩, rfl, rfl,
      rfl, ⟨_, rfl, rfl⟩, rfl, by simp⟩
    unfold InAnyCase
    decide
  plain := by
    simp only [unrulyParts, List.forall_mem_cons]
    simp [Part.Plain]
  needs := by
    intro a ha hne
    cases a with
    | workflowFile => exact absurd rfl hne
    | option o =>
      cases o with
      | serviceNamespace =>
        obtain ⟨text, htext, _⟩ := ha
        cases htext
      | _ => decide
    | flag f =>
      cases f with
      | inactive => decide
      | debug => cases ha
      | help => exact ha.elim
      | version => exact ha.elim

def unrulyArguments : List String :=
  ["--n8n-port", "080", "--inactive", "--api-key-secret-key==", "--sync-policy", "cREATEonly",
    "--n8n-url=-n", "--namespace", "", "--output=-", "--api-key-secret", " ", "--n8n-service=a=b",
    "--", "--debug"]

theorem read_parts_of_spelled_unruly :
    unrulyRequest.Sayable ∧ unrulyRequest.Spelled unrulyArguments ∧
      ∃ g, read unrulyArguments = .ok g ∧ g.parts = .ok unrulyRequest := by
  have hsayable : unrulyRequest.Sayable := by
    refine ⟨by decide, by decide, ?_⟩
    intro ref href
    cases href
    rfl
  have hspelled : unrulyRequest.Spelled unrulyArguments := .last unruly_covered (by decide)
  exact ⟨hsayable, hspelled, (read_parts_of_spelled hsayable).2 _ hspelled⟩

end WorkflowManifest.CommandLine
