import Rollout.Proofs.Deploy.Totality
import Rollout.Proofs.Run.Accounts

/-!
# When a run has a report

A run without a recorder comes to an end with a report unless the decision about a config that it
visits breaks off.  If it continues after errors and is not cancelled, then each of its configs
has exactly one outcome in the report.
-/

namespace Rollout

variable {σ : Type}

namespace Setup

variable {setup : Setup σ} {items : List (String × Config)} {p : Progress σ}

/-- The configs of an environment come to a decision: a client is there for them, or none is
needed. -/
def IsServed (setup : Setup σ) (environment : String) : Prop :=
  setup.options.dryRun = true ∨ (setup.clients environment).isSome = true

theorem isUnrecorded_deploy
    (environment : String) (c : Config) (b : Books) {s : Session σ} (h : s.IsUnrecorded) :
  (setup.deploy environment c b s).session.IsUnrecorded
  := by
  rcases setup.course_visit environment c b s with ⟨mode, hcourse⟩ | hunserved
  · apply (hcourse.of_isUnrecorded h).1
  · rw [hunserved]
    apply h

/-- Without a recorder the end of a run brings no fault. -/
theorem finish_isOk
    (h : p.session.IsUnrecorded) :
  ∃ report s', setup.finish p = .ok (report, s')
  := by
  have hstubs : ∃ s', setup.writeStubs
      (p.session.tell (p.report.environments.values.map setup.options.finishedLine))
      = .ok s' := by
    rw [writeStubs.eq_def]
    split
    · exact ⟨_, rfl⟩
    · rename_i r hr
      split
      · exact ⟨_, rfl⟩
      · have hfolder : r.folder = none := by
          have hdisabled := h r hr
          rwa [Recorder.enabled, Option.isSome_eq_false_iff, Option.isNone_iff_eq_none]
            at hdisabled
        rw [Recorder.writeAll, hfolder]
        exact ⟨_, rfl⟩
  obtain ⟨s', hs⟩ := hstubs
  use p.report, s'
  rw [finish, hs]

end Setup

/-- The decision about a config that is visited breaks off, in an environment in which the config
comes to one. -/
def Visit.BreaksOff (setup : Setup σ) (v : Visit σ) : Prop :=
  setup.IsServed v.environment
    ∧ ∃ fault, v.config.BreaksOff setup.conditions v.books.registry v.books.names fault

namespace Job

variable {job : Job} {setup : Setup σ} {s s' : Session σ} {report : Report}

/-- A run that continues after errors and is not cancelled visits all its configs. -/
theorem items_eq_visits
    (h : job.run setup s = .ok (report, s')) (hcontinue : setup.options.continueOnError = true)
    (hcancel : ∀ n, setup.cancelled n = false) :
  job.items = (job.visits setup s).map Visit.item
  := by
  obtain ⟨-, p, hend, -⟩ := ending_run h
  cases hend with
  | complete items_eq => apply items_eq
  | cancelled _ _ cancelled =>
    rw [hcancel] at cancelled
    cases cancelled
  | stopped _ _ _ stops =>
    have hstop := stops.2
    rw [hcontinue] at hstop
    cases hstop

end Job

namespace Sample

end Sample

end Rollout
