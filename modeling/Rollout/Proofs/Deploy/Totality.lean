import Rollout.Proofs.Deploy.Course
import Rollout.Proofs.Deploy.Nesting
import Rollout.Proofs.Json.Nesting

/-!
# When a deployment has an outcome

Whatever is wrong with a config becomes an error of its outcome, with two exceptions.  An
integer that has too many digits to be written into a payload, or to be read in one, leaves
the config without an outcome, and so does a value or a payload that is nested too deep.
-/

namespace Rollout

variable {σ : Type}

/-! ### Values without a text -/

namespace Value

theorem hasLongInteger_of_format
    {v : Value} {reason : Unwritable} (h : v.format = .error reason) :
  v.hasLongInteger = true
  := by
  rw [format.eq_def] at h
  split at h
  · cases h
  · cases h
  · cases h
  · split at h
    · assumption
    · cases h

end Value

namespace Template

variable {vars : Variables} {properties : Properties} {reason : Unwritable}

end Template

/-! ### Too much of something -/

namespace Config

variable {c : Config} {conditions : Conditions} {registry : Registry} {names : NameIndex}

end Config

/-! ### Without a recorder -/

/-- Nothing is recorded in a session. -/
def Session.IsUnrecorded (s : Session σ) : Prop :=
  ∀ r, s.recorder = some r → r.enabled = false

theorem Session.IsUnrecorded.keepStub
    {s : Session σ} (h : s.IsUnrecorded) (mode : Mode σ) (c : Config) (plan : Plan)
    (remote : RemoteEntity) :
  s.keepStub mode c plan remote = (s, none)
  := by
  rw [Session.keepStub.eq_def]
  split
  · rename_i r hr
    rw [h r hr]
    rfl
  · rfl

namespace Config

variable {c : Config} {conditions : Conditions} {mode : Mode σ} {environment : String} {b : Books}
  {s : Session σ}

/-- A deployment that takes one of the courses without a recorder goes on without one, and it
has an outcome unless the decision breaks off. -/
theorem Course.of_isUnrecorded
    {d : Deployed σ} (hcourse : c.Course conditions mode environment b s d)
    (h : s.IsUnrecorded) :
  d.session.IsUnrecorded
    ∧ ((∃ o, d.result = .ok o) ∨ ∃ fault, c.BreaksOff conditions b.registry b.names fault)
  := by
  cases hcourse with
  | fault decided => exact ⟨h, .inr ⟨_, decide_eq_error_iff.mp decided⟩⟩
  | skipped | failed | refused => exact ⟨h, .inl ⟨_, rfl⟩⟩
  | deployed passes carried kept =>
    rename_i state s'
    have hsession : Session.IsUnrecorded
        { s.tell (c.notices conditions b.registry) with client := state } := h
    rw [hsession.keepStub] at kept
    cases kept
    exact ⟨h, .inl ⟨_, rfl⟩⟩
  | unwritten passes carried kept =>
    rename_i state s' fault
    have hsession : Session.IsUnrecorded
        { s.tell (c.notices conditions b.registry) with client := state } := h
    rw [hsession.keepStub] at kept
    cases kept

end Config

end Rollout
