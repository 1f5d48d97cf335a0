import WorkflowManifest.Proofs.CommandLine.RoundTrip
import WorkflowManifest.Proofs.Json.Exact

/-!
The options that occur in a command line. What has been read knows an option just in case an
argument in front of two hyphens names it, whatever stands around that argument: a value that names
an option is never taken for one.
-/

namespace WorkflowManifest.CommandLine

/-- An argument names an option by its long name, a value attached or not, or by its letter. -/
inductive Names : String → ValueOption → Prop
  | long (o : ValueOption) : Names ("--" ++ o.name) o
  | attached (o : ValueOption) (value : String) : Names ("--" ++ o.name ++ "=" ++ value) o
  | letter (h : ValueOption.ofLetter? c = some o) (rest : List Char) :
      Names (String.ofList ('-' :: c :: rest)) o

/-- After two hyphens that stand alone no option occurs. -/
def Occurs (o : ValueOption) (args : List String) : Prop :=
  ∃ arg ∈ args.takeWhile (· ≠ "--"), Names arg o

def named? (arg : String) : Option ValueOption :=
  match arg.toList with
  | '-' :: '-' :: cs => ValueOption.all.find? (·.name = (State.splitValue cs).1)
  | '-' :: letter :: _ => ValueOption.ofLetter? letter
  | _ => none

section Naming

variable {o : ValueOption}

theorem find?_name (o : ValueOption) : ValueOption.all.find? (·.name = o.name) = some o := by
  cases o <;> decide

theorem eq_of_splitValue {cs : List Char} {name : String} (h : (State.splitValue cs).1 = name) :
    cs = name.toList ∨ ∃ value : String, cs = name.toList ++ '=' :: value.toList := by
  have hname : cs.takeWhile (· ≠ '=') = name.toList := by
    rw [← h, State.splitValue, String.toList_ofList]
  have hall : name.toList ++ cs.dropWhile (· ≠ '=') = cs := by
    rw [← hname, List.takeWhile_append_dropWhile]
  cases hrest : cs.dropWhile (· ≠ '=') with
  | nil =>
    rw [hrest, List.append_nil] at hall
    exact .inl hall.symm
  | cons c value =>
    have hne : cs.dropWhile (· ≠ '=') ≠ [] := by
      rw [hrest]
      exact List.cons_ne_nil c value
    have hc : c = '=' := by
      have hhead := List.head_dropWhile_not (· ≠ '=') hne
      simpa only [hrest, List.head_cons, decide_eq_false_iff_not, not_not] using hhead
    rw [hrest, hc] at hall
    exact .inr ⟨String.ofList value, by rw [String.toList_ofList, hall]⟩

theorem named?_long {arg : String} {cs : List Char} (harg : arg.toList = '-' :: '-' :: cs) :
    named? arg = ValueOption.all.find? (·.name = (State.splitValue cs).1) := by
  rw [named?, harg]
  rfl

theorem named?_short {arg : String} {letter : Char} {cs : List Char} (hletter : letter ≠ '-')
    (harg : arg.toList = '-' :: letter :: cs) : named? arg = ValueOption.ofLetter? letter := by
  rw [named?, harg]
  split <;> simp_all

theorem named?_plain {arg : String} (harg : ∀ letter cs, arg.toList ≠ '-' :: letter :: cs) :
    named? arg = none := by
  rw [named?]
  split
  next cs h => exact absurd h (harg '-' cs)
  next letter cs _ h => exact absurd h (harg letter cs)
  next => rfl

theorem named?_of_names {arg : String} (h : Names arg o) : named? arg = some o := by
  cases h with
  | long =>
    obtain ⟨hplain, -⟩ := State.name_plain o
    have harg : ("--" ++ o.name).toList = '-' :: '-' :: o.name.toList := String.toList_append
    rw [named?_long harg, State.splitValue_name hplain, find?_name]
  | attached _ value =>
    obtain ⟨hplain, -⟩ := State.name_plain o
    have harg : ("--" ++ o.name ++ "=" ++ value).toList =
        '-' :: '-' :: (o.name.toList ++ '=' :: value.toList) := by
      simp [String.toList_append]
    rw [named?_long harg, State.splitValue_attached hplain, find?_name]
  | letter hletter rest =>
    rw [named?_short ?_ String.toList_ofList, hletter]
    rintro rfl
    cases hletter

theorem names_of_named? {arg : String} (h : named? arg = some o) : Names arg o := by
  rw [named?] at h
  split at h
  next cs harg =>
    have hname : o.name = (State.splitValue cs).1 := by simpa using List.find?_some h
    obtain hcs | ⟨value, hcs⟩ := eq_of_splitValue hname.symm
    · have hlong : arg = "--" ++ o.name := by
        rw [← String.toList_inj, harg, hcs, String.toList_append]
        rfl
      rw [hlong]
      exact .long o
    · have hattached : arg = "--" ++ o.name ++ "=" ++ value := by
        rw [← String.toList_inj, harg, hcs]
        simp [String.toList_append]
      rw [hattached]
      exact .attached o value
  next letter rest _ harg =>
    rw [← String.ofList_toList (s := arg), harg]
    exact .letter h rest
  next => cases h

theorem named?_eq_some_iff {arg : String} : named? arg = some o ↔ Names arg o :=
  ⟨names_of_named?, named?_of_names⟩

end Naming

section Given

variable {g g' : Given} {o p : ValueOption}

theorem has_set {value : String} (h : g.set value p = .ok g') : g'.has o ↔ g.has o ∨ p = o := by
  cases p with
  | syncPolicy =>
    rw [Given.set] at h
    split at h
    · cases h
    · split at h
      · cases h
        cases o <;> simp [Given.has]
      · cases h
  | port =>
    rw [Given.set] at h
    split at h
    · cases h
      cases o <;> simp [Given.has]
    · cases h
  | output =>
    rw [Given.set] at h
    split at h
    · cases h
    · cases h
      cases o <;> simp [Given.has]
  | _ =>
    cases h
    cases o <;> simp [Given.has]

theorem has_settle {pending : Pending} (h : g.settle pending = .ok g') :
    g'.has o ↔ g.has o ∨ ∃ value, pending = .option o value := by
  cases pending with
  | nothing =>
    cases h
    simp
  | file path =>
    rw [Given.settle] at h
    split at h
    · cases h
    · cases h
      cases o <;> simp [Given.has]
  | option p value =>
    cases value with
    | none => cases h
    | some value =>
      rw [Given.settle] at h
      split at h
      · cases h
      · rw [has_set h]
        simp

theorem has_raise {f : Flag} (h : g.raise f = .ok g') : g'.has o = g.has o := by
  cases f with
  | inactive =>
    rw [Given.raise] at h
    split at h
    · cases h
    · cases h
      cases o <;> rfl
  | debug =>
    rw [Given.raise] at h
    split at h
    · cases h
    · cases h
      cases o <;> rfl
  | help => cases h
  | version => cases h

end Given

namespace State

variable {s t : State} {o : ValueOption}

def Knows (s : State) (o : ValueOption) : Prop :=
  s.given.has o ∨ ∃ value, s.pending = .option o value

structure Adds (s : State) (named : Option ValueOption) (t : State) : Prop where
  knows : ∀ o, t.Knows o ↔ s.Knows o ∨ named = some o
  escaped : t.escaped = s.escaped

theorem has_settled {g : Given} (h : s.settled = .ok g) : g.has o ↔ s.Knows o :=
  has_settle (mapError_eq_ok_iff.1 h)

theorem adds_takeOption {p : ValueOption} {value : Option String}
    (h : s.takeOption p value = .ok t) : s.Adds (some p) t := by
  cases value with
  | none =>
    obtain ⟨g, hg, ht⟩ := bind_eq_ok_iff.1 h
    cases ht
    refine ⟨fun o => ?_, rfl⟩
    rw [← has_settled hg]
    simp [Knows]
  | some value =>
    obtain ⟨g, hg, h⟩ := bind_eq_ok_iff.1 h
    obtain ⟨g', hg', ht⟩ := bind_eq_ok_iff.1 h
    cases ht
    refine ⟨fun o => ?_, rfl⟩
    rw [← has_settled hg]
    simp [Knows, has_settle (mapError_eq_ok_iff.1 hg')]

theorem adds_takeFlag {f : Flag} (h : s.takeFlag f = .ok t) : s.Adds none t := by
  obtain ⟨g, hg, h⟩ := bind_eq_ok_iff.1 h
  obtain ⟨g', hg', ht⟩ := bind_eq_ok_iff.1 h
  cases ht
  refine ⟨fun o => ?_, rfl⟩
  rw [← has_settled hg]
  simp [Knows, has_raise hg']

theorem adds_takeFile {path : String} (h : s.takeFile path = .ok t) : s.Adds none t := by
  rw [takeFile] at h
  split at h
  · cases h
  · obtain ⟨g, hg, ht⟩ := bind_eq_ok_iff.1 h
    cases ht
    refine ⟨fun o => ?_, rfl⟩
    rw [← has_settled hg]
    simp [Knows]

theorem adds_takePlain {arg : String} (h : s.takePlain arg = .ok t) : s.Adds none t := by
  rw [takePlain] at h
  split at h
  next p hp =>
    cases h
    refine ⟨fun o => ?_, rfl⟩
    simp [Knows, hp]
  next => exact adds_takeFile h

theorem adds_takeLong {cs : List Char} (h : s.takeLong cs = .ok t) :
    s.Adds (ValueOption.all.find? (·.name = (splitValue cs).1)) t := by
  rw [takeLong] at h
  simp only [Argument.ofName?] at h
  cases hfind : ValueOption.all.find? (·.name = (splitValue cs).1) with
  | some o =>
    simp only [hfind] at h
    exact adds_takeOption h
  | none =>
    simp only [hfind] at h
    split at h
    next hflag => simp at hflag
    next => exact adds_takeFlag h
    next => cases h
    next => cases h

theorem adds_takeShort {letter : Char} {cs : List Char} (h : s.takeShort letter cs = .ok t) :
    s.Adds (ValueOption.ofLetter? letter) t := by
  rw [takeShort, Argument.ofLetter?] at h
  cases hletter : ValueOption.ofLetter? letter with
  | some o =>
    simp only [hletter] at h
    exact adds_takeOption h
  | none =>
    simp only [hletter] at h
    split at h
    next hflag => simp at hflag
    next =>
      obtain ⟨g, -, hstop⟩ := bind_eq_ok_iff.1 h
      cases hstop
    next => exact adds_takeFlag h
    next => cases h

theorem adds_step {arg : String} (hs : s.escaped = false) (harg : arg ≠ "--")
    (h : s.step arg = .ok t) : s.Adds (named? arg) t := by
  rw [step, hs] at h
  split at h
  next hfalse => cases hfalse
  next =>
    split at h
    next hescape => exact absurd (String.toList_inj.1 hescape) harg
    next cs _ hcs =>
      rw [named?_long hcs]
      exact adds_takeLong h
    next letter cs _ hletter hcs =>
      rw [named?_short hletter hcs]
      exact adds_takeShort h
    next _ _ hplain =>
      rw [named?_plain hplain]
      exact adds_takePlain h

theorem adds_escaped {arg : String} (hs : s.escaped = true) (h : s.step arg = .ok t) :
    s.Adds none t := by
  rw [step, if_pos hs] at h
  exact adds_takeFile h

theorem step_hyphens (hs : s.escaped = false) (h : s.step "--" = .ok t) :
    t.escaped = true ∧ ∀ o, t.Knows o ↔ s.Knows o := by
  have harg : s.step "--" = .ok { s with escaped := true } := by
    rw [step, hs]
    rfl
  rw [harg] at h
  cases h
  exact ⟨rfl, fun o => .rfl⟩

theorem knows_foldlM {args : List String} (h : args.foldlM step s = .ok t) (o : ValueOption) :
    t.Knows o ↔ s.Knows o ∨ s.escaped = false ∧ Occurs o args := by
  induction args generalizing s with
  | nil =>
    cases h
    simp [Occurs]
  | cons arg args ih =>
    rw [List.foldlM_cons] at h
    obtain ⟨u, hu, h⟩ := bind_eq_ok_iff.1 h
    rw [ih h]
    cases hs : s.escaped with
    | true =>
      have hadds := adds_escaped hs hu
      rw [hadds.knows, hadds.escaped, hs]
      simp
    | false =>
      -- The hyphens name nothing, and from then on every argument is a file.
      by_cases harg : arg = "--"
      · rw [harg] at hu
        obtain ⟨hescaped, hknows⟩ := step_hyphens hs hu
        rw [hknows, hescaped, harg]
        simp [Occurs]
      · have hadds := adds_step hs harg hu
        rw [hadds.knows, hadds.escaped, hs, named?_eq_some_iff]
        simp [Occurs, harg, or_assoc]

end State

def gathered (args : List String) : Except Stop Given := do
  let s ← args.foldlM State.step {}
  s.settled

theorem has_of_gathered {args : List String} {g : Given} (h : gathered args = .ok g)
    (o : ValueOption) : g.has o ↔ Occurs o args := by
  obtain ⟨s, hs, hg⟩ := bind_eq_ok_iff.1 h
  have hstart : ¬ State.Knows {} o := by
    cases o <;> simp [State.Knows, Given.has]
  rw [State.has_settled hg, State.knows_foldlM hs]
  simp [hstart]

end WorkflowManifest.CommandLine
