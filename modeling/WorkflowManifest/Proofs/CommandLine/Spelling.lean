import WorkflowManifest.Proofs.CommandLine.Values

namespace WorkflowManifest.CommandLine

/-- One thing that a command line says. The value of an option is attached to its name or is an
argument of its own. -/
inductive Part where
  | file (path : String)
  | option (o : ValueOption) (value : String) (attached : Bool)
  | flag (f : Flag)

namespace Part

def argument : Part → Argument
  | .file _ => .workflowFile
  | .option o _ _ => .option o
  | .flag f => .flag f

def texts : Part → List String
  | .file path => [path]
  | .option o value true => ["--" ++ o.name ++ "=" ++ value]
  | .option o value false => ["--" ++ o.name, value]
  | .flag f => ["--" ++ f.name]

def Plain : Part → Prop
  | .file text | .option _ text false => text.toList.head? ≠ some '-'
  | .option _ _ true | .flag _ => True

end Part

namespace Request

def ref (r : Request) : InstanceRef := r.options.instanceRef.getD {}

def Gives (r : Request) : ValueOption → String → Prop
  | .inNamespace, text => r.options.inNamespace = text
  | .syncPolicy, text => ∃ p, r.options.syncPolicy = some p ∧ InAnyCase text p.name
  | .url, text => r.ref.url = some text
  | .service, text => r.ref.name = some text
  | .serviceNamespace, text => r.ref.inNamespace = some text
  | .port, text => ∃ p, r.ref.port = some p ∧ IsDecimal text p.toNat
  | .secret, text => ∃ s, r.ref.secret = some s ∧ s.name = text
  | .secretKey, text => ∃ s, r.ref.secret = some s ∧ s.key = some text
  | .output, text => r.target = .file text

def Raises (r : Request) : Flag → Prop
  | .inactive => r.options.active = false
  | .debug => r.debug = true
  | .help | .version => False

def Tells (r : Request) : Part → Prop
  | .file path => path = r.file
  | .option o text _ => r.Gives o text
  | .flag f => r.Raises f

def Needs (r : Request) : Argument → Prop
  | .workflowFile => True
  | .option o => ∃ text, r.Gives o text ∧ ¬ (o = .inNamespace ∧ text = defaultNamespace)
  | .flag f => r.Raises f

theorem needs_option {r : Request} {o : ValueOption} (ho : o ≠ .inNamespace) :
    r.Needs (.option o) ↔ ∃ text, r.Gives o text := by
  simp [Needs, ho]

/-- All that the request needs is said, except for the file perhaps, and nothing is said twice. -/
structure Covered (r : Request) (parts : List Part) : Prop where
  once : (parts.map Part.argument).Nodup
  right : ∀ p ∈ parts, r.Tells p
  plain : ∀ p ∈ parts, p.Plain
  needs : ∀ a, r.Needs a → a ≠ .workflowFile → a ∈ parts.map Part.argument

/-- The file stands anywhere between the other parts, or behind all of them after two hyphens. -/
inductive Spelled (r : Request) : List String → Prop
  | between {parts : List Part} (h : r.Covered parts)
      (hfile : .workflowFile ∈ parts.map Part.argument) : Spelled r (parts.flatMap Part.texts)
  | last {parts : List Part} (h : r.Covered parts)
      (hfile : .workflowFile ∉ parts.map Part.argument) :
      Spelled r (parts.flatMap Part.texts ++ ["--", r.file])

/-- What a command line can say at all: neither a path nor the reference is empty. -/
structure Sayable (r : Request) : Prop where
  file : r.file ≠ ""
  target : r.target ≠ .file ""
  ref : ∀ ref, r.options.instanceRef = some ref → ref.isEmpty = false

theorem exists_part {r : Request} {a : Argument} (h : r.Needs a) (ha : a ≠ .workflowFile) :
    ∃ p : Part, p.argument = a ∧ r.Tells p ∧ p.Plain := by
  cases a with
  | workflowFile => exact absurd rfl ha
  | option o =>
    obtain ⟨text, htext, _⟩ := h
    exact ⟨.option o text true, rfl, htext, trivial⟩
  | flag f => exact ⟨.flag f, rfl, h, trivial⟩

theorem exists_parts (r : Request) (as : List Argument) (has : .workflowFile ∉ as) :
    ∃ parts : List Part, (parts.map Part.argument).Sublist as ∧ (∀ p ∈ parts, r.Tells p) ∧
      (∀ p ∈ parts, p.Plain) ∧ ∀ a ∈ as, r.Needs a → a ∈ parts.map Part.argument := by
  induction as with
  | nil => exact ⟨[], .slnil, by simp⟩
  | cons a as ih =>
    obtain ⟨hne, has⟩ := not_or.1 (mt List.mem_cons.2 has)
    obtain ⟨parts, hsub, hright, hplain, hneeds⟩ := ih has
    by_cases ha : r.Needs a
    · obtain ⟨p, rfl, hp, hpl⟩ := exists_part ha (Ne.symm hne)
      exact ⟨p :: parts, hsub.cons_cons _, by simpa using ⟨hp, hright⟩,
        by simpa using ⟨hpl, hplain⟩,
        by simpa using fun b hb hn => .inr (by simpa using hneeds b hb hn)⟩
    · refine ⟨parts, hsub.cons a, hright, hplain, ?_⟩
      intro b hb hn
      cases List.mem_cons.1 hb with
      | inl heq => exact absurd (heq ▸ hn) ha
      | inr hmem => exact hneeds b hmem hn

def optional : List Argument := ValueOption.all.map .option ++ Flag.all.map .flag

theorem mem_optional {a : Argument} (ha : a ≠ .workflowFile) : a ∈ optional := by
  cases a with
  | workflowFile => exact absurd rfl ha
  | option o => cases o <;> decide
  | flag f => cases f <;> decide

theorem exists_spelled (r : Request) : ∃ args, r.Spelled args := by
  obtain ⟨parts, hsub, hright, hplain, hneeds⟩ := r.exists_parts optional (by decide)
  have hfile : .workflowFile ∉ parts.map Part.argument :=
    fun hmem => absurd (hsub.subset hmem) (by decide)
  have hnodup : optional.Nodup := by decide
  exact ⟨_, .last ⟨hsub.nodup hnodup, hright, hplain,
    fun a hn ha => hneeds a (mem_optional ha) hn⟩ hfile⟩

end Request

end WorkflowManifest.CommandLine
