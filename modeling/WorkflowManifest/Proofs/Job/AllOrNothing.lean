import WorkflowManifest.Proofs.Job.Conversion

namespace WorkflowManifest.Job

open FileSystem (Spares)

/-- A conversion that cannot read, parse or write out its workflow leaves the files as they were.
One that cannot make its directories or write its text leaves directories at most. One that
succeeds has written all of its text, or a sink has swallowed it. -/
inductive Ending (c : Converter) (input output : String) (fs : FileSystem) :
    Except Problem Nat → FileSystem → Prop
  | unread {e : ReadError} (h : sourceText input fs = .error (.unread input e)) :
    Ending c input output fs (.error (.unread input e)) fs
  | unparsed {text : String} {failure : Json.Failure} (htext : sourceText input fs = .ok text)
    (h : Document.read text = .error failure) :
    Ending c input output fs (.error (.unparsed input failure)) fs
  | unwritable {d : Document} {e : Json.WriteError} (hd : source input fs = .ok d)
    (h : (c.convert d).yaml = .error e) :
    Ending c input output fs (.error (.unwritable (c.convert d).name e)) fs
  | noDirectory {path : String} {e : SystemError} {fs' : FileSystem}
    (h : Spares (Path.above output) none fs fs') :
    Ending c input output fs (.error (.noDirectory path e)) fs'
  | unwritten {e : SystemError} {fs' : FileSystem} (h : Spares (Path.above output) none fs fs') :
    Ending c input output fs (.error (.unwritten output e)) fs'
  | written {d : Document} {text : String} {p : Place} {fs' : FileSystem}
    (hd : source input fs = .ok d) (htext : Manifest.render [c.convert d] = .ok text)
    (hplace : fs'.resolve output = .ok (.existing p (.file text.toUTF8)))
    (hread : fs'.read output = .ok text.toUTF8)
    (h : Spares (Path.above output) (some p) fs fs') :
    Ending c input output fs (.ok 1) fs'
  | swallowed {d : Document} {text : String} {p : Place} {fs' : FileSystem}
    (hd : source input fs = .ok d) (htext : Manifest.render [c.convert d] = .ok text)
    (hplace : fs'.resolve output = .ok (.existing p .sink))
    (h : Spares (Path.above output) none fs fs') :
    Ending c input output fs (.ok 1) fs'

variable {input output : String} {fs : FileSystem}

theorem sourceText_error {p : Problem} (h : sourceText input fs = .error p) :
    ∃ e, p = .unread input e := by
  unfold sourceText at h
  split at h
  · cases h
    exact ⟨_, rfl⟩
  · split at h
    · cases h
    · cases h
      exact ⟨_, rfl⟩

theorem render_singleton (r : Resource) :
    Manifest.render [r] =
      match r.yaml with
      | .error e => .error (.unwritable r.name e)
      | .ok text => .ok (Manifest.separator ++ text ++ "") := by
  unfold Manifest.render
  cases r.yaml <;> rfl

theorem render_singleton_size {r : Resource} {text : String} (h : Manifest.render [r] = .ok text) :
    text.toUTF8.isEmpty = false := by
  rw [render_singleton] at h
  cases hy : r.yaml with
  | error e => simp [hy] at h
  | ok y =>
    rw [hy] at h
    cases h
    have hsize : Manifest.separator.toByteArray.size = 4 := rfl
    simp [ByteArray.isEmpty, String.toByteArray_append, ByteArray.size_append, hsize]

theorem spares_prepared (output : String) (fs : FileSystem) :
    Spares (Path.above output) none fs (prepared output fs).2 := by
  have hsub : chain output ⊆ Path.above output := (List.takeWhile_sublist _).subset
  unfold prepared
  split
  next => exact .refl _ fs
  next directory above hchain =>
    rw [hchain] at hsub
    exact (FileSystem.spares_makeDirectories (directory :: above) fs).mono hsub

theorem prepared_error {p : Problem} {fs' : FileSystem} (h : prepared output fs = (.error p, fs')) :
    ∃ path e, p = .noDirectory path e := by
  unfold prepared at h
  split at h
  next => cases h
  next directory above hchain =>
    cases hm : FileSystem.makeDirectories (directory :: above) fs with
    | mk result fs'' =>
      rw [hm] at h
      cases result with
      | ok _ => cases h
      | error e =>
        cases h
        exact ⟨directory, e, rfl⟩

theorem written_ends {c : Converter} {d : Document} {text : String} {fs' : FileSystem}
    (hd : source input fs = .ok d) (htext : Manifest.render [c.convert d] = .ok text)
    (h : Spares (Path.above output) none fs fs') :
    Ending c input output fs (andThen (written output text) (fun _ => silent 1) fs').1
      (andThen (written output text) (fun _ => silent 1) fs').2 := by
  unfold andThen written
  cases hw : fs'.write output text.toUTF8 with
  | error e => exact .unwritten h
  | ok fs'' =>
    obtain ⟨hslash, hcases⟩ := FileSystem.write_cases (render_singleton_size htext) hw
    rcases hcases with ⟨p, hplace, rfl⟩ | ⟨p, found, hfound, hfree, rfl⟩
    · exact .swallowed hd htext hplace h
    · obtain ⟨hne, hdir, hput⟩ := FileSystem.resolve_free hfound hfree
      have hplace := hput (.file text.toUTF8)
      exact .written hd htext hplace (FileSystem.read_file hslash hplace) (h.put hne hdir _)

theorem loaded_ends {c : Converter} {d : Document} (hd : source input fs = .ok d) :
    Ending c input output fs (loaded output [c.convert d] fs).1
      (loaded output [c.convert d] fs).2 := by
  have hspares := spares_prepared output fs
  unfold loaded
  rw [andThen]
  cases htext : Manifest.render [c.convert d] with
  | error p =>
    rw [render_singleton] at htext
    cases hy : (c.convert d).yaml with
    | ok y => simp [hy] at htext
    | error e =>
      rw [hy] at htext
      cases htext
      exact .unwritable hd hy
  | ok text =>
    simp only
    rw [andThen]
    cases hp : prepared output fs with
    | mk result fs' =>
      rw [hp] at hspares
      cases result with
      | ok _ => exact written_ends hd htext hspares
      | error p =>
        obtain ⟨path, e, rfl⟩ := prepared_error hp
        exact .noDirectory hspares

theorem conversion_ends (c : Converter) (input output : String) (fs : FileSystem) :
    Ending c input output fs (conversion c input output fs).1 (conversion c input output fs).2 := by
  rw [conversion, andThen]
  cases hd : source input fs with
  | ok d => exact loaded_ends hd
  | error p =>
    rw [source] at hd
    cases htext : sourceText input fs with
    | error q =>
      rw [htext] at hd
      cases hd
      obtain ⟨e, rfl⟩ := sourceText_error htext
      exact .unread htext
    | ok text =>
      rw [htext] at hd
      cases hparse : Document.read text with
      | ok d =>
        simp only [hparse] at hd
        cases hd
      | error failure =>
        simp only [hparse] at hd
        cases hd
        exact .unparsed htext hparse

/-- Converting a file ends in one of these ways, in any world, and its stages driven one by one end
in the same way. -/
theorem convertFile_ends (input : String) (options : Options) (output : String) (w : World) :
    ∃ result files, Ending (.ofOptions options) input output w.files result files ∧
      leaves (convertFile input options (.file output)) w = (result, files) ∧
      leaves (runStages (.ofOptions options) input (.file output)) w = (result, files) :=
  ⟨_, _, conversion_ends (.ofOptions options) input output w.files,
    does_convertFile input options output w, does_runStages _ input output w⟩

def sinkWorld : World where
  files := {
    entries := [(["dev"], .directory), (["dev", "null"], .sink), (["w"], .file "\x7b\x7d".toUTF8)]
    workingDirectory := [] }

theorem sink_swallows :
    ∃ text, source "w" sinkWorld.files = .ok ⟨[]⟩ ∧
      Manifest.render [(Converter.ofOptions {}).convert ⟨[]⟩] = .ok text ∧
      (leaves (convertFile "w" {} (.file "/dev/null")) sinkWorld).1 = .ok 1 ∧
      (leaves (convertFile "w" {} (.file "/dev/null")) sinkWorld).2.read "/dev/null" ≠
        .ok text.toUTF8 := by
  have hslash : Path.endsInSlash "/dev/null" = false := rfl
  have hplace : sinkWorld.files.resolve "/dev/null" = .ok (.existing ["dev", "null"] .sink) :=
    (FileSystem.resolve_names (by simp) rfl (by decide) rfl rfl).trans rfl
  have hdirectory : sinkWorld.files.resolve "/dev" = .ok (.existing ["dev"] .directory) :=
    (FileSystem.resolve_names (by simp) rfl (by decide) rfl rfl).trans rfl
  have hw : sinkWorld.files.resolve "w" = .ok (.existing ["w"] (.file "\x7b\x7d".toUTF8)) :=
    (FileSystem.resolve_names (by simp) rfl (by decide) rfl rfl).trans rfl
  have hsource : source "w" sinkWorld.files = .ok ⟨[]⟩ :=
    source_of_read (FileSystem.read_file rfl hw) rfl
  have hchain : chain "/dev/null" = ["/dev", "/"] := rfl
  have hprepared : prepared "/dev/null" sinkWorld.files = (.ok (), sinkWorld.files) := by
    simp only [prepared, hchain, FileSystem.makeDirectories, FileSystem.makeDirectory,
      FileSystem.isDirectory, hdirectory]
    rfl
  have hread : sinkWorld.files.read "/dev/null" = .ok ByteArray.empty := by
    simp [FileSystem.read, hslash, hplace, bind, Except.bind]
  have hwritten (text : String) :
      written "/dev/null" text sinkWorld.files = (.ok (), sinkWorld.files) := by
    simp [written, FileSystem.write, hslash, hplace, bind, Except.bind]
  obtain ⟨text, htext⟩ : ∃ text,
    Manifest.render [(Converter.ofOptions {}).convert ⟨[]⟩] = .ok text := ⟨_, rfl⟩
  have hrun : leaves (convertFile "w" {} (.file "/dev/null")) sinkWorld =
      (.ok 1, sinkWorld.files) := by
    rw [does_convertFile]
    simp [conversion, loaded, andThen, hsource, htext, hprepared, hwritten, silent]
  refine ⟨text, hsource, htext, by rw [hrun], ?_⟩
  rw [hrun, hread]
  intro h
  have hsize := render_singleton_size htext
  rw [← Except.ok.inj h] at hsize
  cases hsize

end WorkflowManifest.Job
