import WorkflowManifest.Problem
import WorkflowManifest.Text.Split

namespace WorkflowManifest

namespace Text

def setLine : List Char → List Char
  | [] => []
  | c :: cs => ' ' :: ' ' :: ' ' :: ' ' :: c :: cs

def setIn (text : String) : String :=
  String.ofList (['\n'].intercalate ((split '\n' text.toList).map setLine))

/-- A text set in under a heading, an empty line above it. -/
def passage (heading : String) : Option String → String
  | none => ""
  | some text => "\n\n" ++ heading ++ ":\n" ++ setIn text

end Text

/-- What is said of a problem: what failed, and why. -/
inductive Problem.Told : Problem → String → Option String → Prop
  | unread (path : String) (error : ReadError) :
      Told (.unread path error) ("Failed to read workflow file: " ++ path) (some error.message)
  | unparsed (path : String) (failure : Json.Failure) :
      Told (.unparsed path failure) ("Failed to parse workflow JSON: " ++ path)
        (some failure.message)
  | unwritable (name : String) (error : Json.WriteError) :
      Told (.unwritable name error) ("Failed to serialize custom resource: " ++ name)
        (some error.message)
  | noDirectory (path : String) (error : SystemError) :
      Told (.noDirectory path error) ("Failed to create output directory: " ++ path)
        (some error.message)
  | unwritten (path : String) (error : SystemError) :
      Told (.unwritten path error) ("Failed to write manifest: " ++ path) (some error.message)
  | unprinted (error : SystemError) :
      Told (.unprinted error) "Failed to write manifest to stdout" (some error.message)
  | keyWithoutSecret (key : String) :
      Told (.keyWithoutSecret key)
        ("API key secret key '" ++ key ++ "' given without a secret name") none

namespace Report

theorem indent_uniform (cs : List Char) (line : Nat) :
    ∃ l ls, Text.split '\n' cs = l :: ls ∧
      indent uniform line true cs = ['\n'].intercalate (Text.setLine l :: ls.map Text.setLine) ∧
      indent uniform line false cs = ['\n'].intercalate (l :: ls.map Text.setLine) := by
  induction cs generalizing line with
  | nil => exact ⟨[], [], rfl, rfl, rfl⟩
  | cons c cs ih =>
    by_cases hc : c = '\n'
    · obtain ⟨l, ls, hsplit, hfresh, -⟩ := ih (line + 1)
      refine ⟨[], l :: ls, by simp [Text.split, hc, hsplit], ?_, ?_⟩ <;>
        simp [indent, hc, hfresh, Text.setLine, List.intercalate_cons_cons]
    · obtain ⟨l, ls, hsplit, -, hbegun⟩ := ih line
      refine ⟨c :: l, ls, by simp [Text.split, hc, hsplit], ?_, ?_⟩ <;>
        cases ls <;> simp [indent, hc, hbegun, Text.setLine, uniform, List.intercalate_cons_cons]

theorem indented_uniform (text : String) : indented uniform text = Text.setIn text := by
  obtain ⟨l, ls, hsplit, hfresh, -⟩ := indent_uniform text.toList 0
  rw [indented, Text.setIn, hfresh, hsplit, List.map_cons]

theorem causesText_eq (cause : Option String) :
    causesText cause.toList = Text.passage "Caused by" cause := by
  cases cause with
  | none => rfl
  | some cause =>
    rw [Option.toList_some, causesText, indented_uniform]
    rfl

theorem locationText_eq (location : Option String) :
    locationText location = Text.passage "Location" location := by
  cases location with
  | none => rfl
  | some location =>
    rw [locationText, indented_uniform]
    rfl

end Report

namespace Problem

theorem report_told (p : Problem) :
    ∃ message cause, p.Told message cause ∧ p.report = ⟨message, cause.toList⟩ := by
  cases p with
  | unread path error => exact ⟨_, _, .unread path error, rfl⟩
  | unparsed path failure => exact ⟨_, _, .unparsed path failure, rfl⟩
  | unwritable name error => exact ⟨_, _, .unwritable name error, rfl⟩
  | noDirectory path error => exact ⟨_, _, .noDirectory path error, rfl⟩
  | unwritten path error => exact ⟨_, _, .unwritten path error, rfl⟩
  | unprinted error => exact ⟨_, _, .unprinted error, rfl⟩
  | keyWithoutSecret key => exact ⟨_, _, .keyWithoutSecret key, rfl⟩

theorem report_text (p : Problem) (location : Option String) :
    ∃ message cause, p.Told message cause ∧ p.report.text location = "Error: " ++ message ++
      Text.passage "Caused by" cause ++ Text.passage "Location" location ++ "\n" := by
  obtain ⟨message, cause, htold, hreport⟩ := p.report_told
  refine ⟨message, cause, htold, ?_⟩
  rw [hreport, Report.text, Report.causesText_eq, Report.locationText_eq]

end Problem

end WorkflowManifest
