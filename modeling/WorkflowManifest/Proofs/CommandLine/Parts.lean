import WorkflowManifest.CommandLine.Parser
import WorkflowManifest.Proofs.Json.Exact

namespace WorkflowManifest.CommandLine

def InstanceArguments.assembled (a : InstanceArguments) : InstanceRef where
  url := a.url
  name := a.service
  inNamespace := a.inNamespace
  port := a.port
  secret := a.secret.map fun name => { name, key := a.secretKey }

def InstanceArguments.reference (a : InstanceArguments) : Option InstanceRef :=
  (some a.assembled).filter fun r => !r.isEmpty

variable {args : List String} {g : Given} {r : Request}

theorem secret_mem_missing : .option .secret ∈ g.missing ↔ g.has .secretKey ∧ ¬ g.has .secret := by
  rw [Given.missing]
  split <;> split <;> simp_all [Given.has]

theorem parts_of_secret (h : .option .secret ∉ g.missing) :
    g.parts = .ok (g.request g.ref.reference) := by
  have hsecret : g.ref.secretRef = .ok g.ref.assembled.secret := by
    rw [secret_mem_missing] at h
    rw [InstanceArguments.secretRef, InstanceArguments.assembled]
    cases hs : g.ref.secret with
    | some name => rfl
    | none =>
      cases hk : g.ref.secretKey with
      | none => rfl
      | some key => simp [Given.has, hs, hk] at h
  rw [Given.parts, InstanceArguments.instanceRef, hsecret]
  rfl

theorem parts_of_missing (h : .option .secret ∈ g.missing) : ∃ p, g.parts = .error p := by
  obtain ⟨hkey, hsecret⟩ := secret_mem_missing.1 h
  obtain ⟨key, hkey⟩ := Option.isSome_iff_exists.1 hkey
  have hsecret : g.ref.secret = none := by simpa [Given.has] using hsecret
  rw [Given.parts, InstanceArguments.instanceRef, InstanceArguments.secretRef, hkey, hsecret]
  exact ⟨_, rfl⟩

theorem parts_error_iff : (∃ p, g.parts = .error p) ↔ .option .secret ∈ g.missing := by
  refine ⟨fun ⟨p, hp⟩ => Decidable.byContradiction fun h => ?_, parts_of_missing⟩
  rw [parts_of_secret h] at hp
  cases hp

theorem missing_of_read (h : read args = .ok g) : g.missing.isEmpty := by
  obtain ⟨s, -, h⟩ := bind_eq_ok_iff.1 h
  obtain ⟨g', -, h⟩ := bind_eq_ok_iff.1 h
  split at h
  next hnone =>
    cases h
    exact hnone
  next => cases h

theorem parts_of_read (h : read args = .ok g) : ∃ r, g.parts = .ok r := by
  have hsecret : .option .secret ∉ g.missing := by
    rw [List.isEmpty_iff.1 (missing_of_read h)]
    exact List.not_mem_nil
  exact ⟨_, parts_of_secret hsecret⟩

theorem parts_debug (h : g.parts = .ok r) (debug : Bool) :
    { g with debug }.parts = .ok { r with debug } := by
  obtain ⟨ref, href, rfl⟩ := map_eq_ok_iff.1 h
  exact map_eq_ok_iff.2 ⟨ref, href, rfl⟩

theorem parts_printing (h : g.parts = .ok r) :
    { g with output := none }.parts = .ok { r with target := .stdout } := by
  obtain ⟨ref, href, rfl⟩ := map_eq_ok_iff.1 h
  exact map_eq_ok_iff.2 ⟨ref, href, rfl⟩

theorem target_of_parts (h : g.parts = .ok r) : r.target = g.target := by
  obtain ⟨ref, -, rfl⟩ := map_eq_ok_iff.1 h
  rfl

theorem debug_of_parts (h : g.parts = .ok r) : r.debug = g.debug := by
  obtain ⟨ref, -, rfl⟩ := map_eq_ok_iff.1 h
  rfl

end WorkflowManifest.CommandLine
