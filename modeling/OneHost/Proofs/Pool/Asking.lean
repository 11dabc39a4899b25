import OneHost.Proofs.Pool.Transitions

/-!
# What a step asks

Most of what a step asks of the world outside concerns no endpoint: it reports something, or lets
a refresh begin. Publishing also shows a snapshot and evicts. An endpoint is probed again only when
its schedule waits for it.
-/

namespace OneHost.Pool

variable {pool : Pool} {position : Nat}

/-- An effect that only reports, or lets a refresh begin. -/
def Effect.IsCalm : Effect → Prop
  | .log _ | .lookUp _ | .finished _ _ => True
  | _ => False

/-- Nothing is asked of the endpoints. -/
def Calm (effects : List Effect) : Prop :=
  ∀ effect ∈ effects, effect.IsCalm

namespace Calm

theorem append {first second : List Effect} (calmFirst : Calm first) (calmSecond : Calm second) :
    Calm (first ++ second) := by
  intro effect asked
  cases List.mem_append.mp asked with
  | inl earlier => exact calmFirst effect earlier
  | inr later => exact calmSecond effect later

theorem cons {effect : Effect} {effects : List Effect} (isCalm : effect.IsCalm)
    (calm : Calm effects) : Calm (effect :: effects) := by
  intro other asked
  cases List.mem_cons.mp asked with
  | inl first => exact first ▸ isCalm
  | inr later => exact calm other later

theorem of_quiet {effects : List Effect} (quiet : Quiet effects) : Calm effects := by
  intro effect asked
  obtain ⟨event, rfl⟩ := quiet effect asked
  trivial

theorem beginNext (pool : Pool) : Calm pool.beginNext.2 := by
  simp only [Pool.beginNext]
  split <;> simp [Calm, Effect.IsCalm]

theorem finish (pool : Pool) (id : Nat) (origin : Origin)
    (result : Except Resolution.LookupError Summary) : Calm (pool.finish id origin result).2 := by
  simp only [Pool.finish, List.append_assoc, List.cons_append]
  exact (of_quiet (quiet_release _)).append
    (cons trivial ((of_quiet (quiet_logs _)).append (beginNext _)))

theorem takeAnswer_nil (pool : Pool) (id : Nat) (origin : Origin) :
    Calm (pool.takeAnswer id origin (.ok [])).2 := by
  rw [Pool.takeAnswer_nil]
  exact cons trivial (finish _ _ _ _)

theorem cancel (pool : Pool) (gone : Refresh → Bool) : Calm (pool.cancel gone).2 := by
  simp only [Pool.cancel]
  exact (of_quiet (quiet_release _)).append (beginNext _)

end Calm

/-- Removing endpoints only evicts beside what is calm. -/
theorem mem_removeAll {positions : List Nat} {effect : Effect}
    (asked : effect ∈ (pool.removeAll positions).2) :
    effect.IsCalm ∨ ∃ address, effect = .evict address := by
  induction positions generalizing pool with
  | nil => simp [removeAll] at asked
  | cons first rest ih =>
    unfold removeAll at asked
    split at asked
    · exact ih asked
    · rename_i endpoint _
      simp only [disposeAt_eq, List.append_assoc, List.mem_append, List.mem_cons, List.cons_append,
        List.nil_append] at asked
      rcases asked with disposed | rfl | rfl | later
      · exact .inl (Calm.of_quiet (quiet_disposal pool first) effect disposed)
      · exact .inr ⟨_, rfl⟩
      · exact .inl trivial
      · exact ih later

/-- Publishing shows the snapshot and evicts, beside what is calm. -/
theorem mem_publish {id : Nat} {origin : Origin} {previous : List Nat} {answer : List Ip}
    {slots : List Slot} {effect : Effect}
    (asked : effect ∈ (pool.publish id origin previous answer slots).2) :
    effect.IsCalm ∨ (∃ snapshot, effect = .published snapshot) ∨
      ∃ address, effect = .evict address := by
  simp only [publish_eq, List.cons_append, List.mem_cons, List.mem_append] at asked
  rcases asked with published | removed | finished
  · exact .inr (.inl ⟨_, published⟩)
  · exact (mem_removeAll removed).imp_right .inr
  · exact .inl (Calm.finish _ _ _ _ effect finished)

/-- Only an endpoint whose schedule waits is probed again. -/
theorem waiting_of_probe {input : Input} (asked : .probe position ∈ (pool.step input).2) :
    ∃ endpoint, pool.roster.get? position = some endpoint ∧ endpoint.schedule = .waiting := by
  obtain ⟨after, effects, stepped, transition⟩ := exists_transition pool input
  rw [stepped] at asked
  have notCalm (calm : Calm effects) : False := calm _ asked
  cases transition with
  | due found waits =>
    obtain rfl := Effect.probe.inj (List.mem_singleton.mp asked)
    exact ⟨_, found, waits⟩
  | asked _ _ => exact (notCalm (.beginNext _)).elim
  | unanswered _ _ => exact (notCalm (.finish _ _ _ _)).elim
  | unaddressed _ => exact (notCalm (.takeAnswer_nil _ _ _)).elim
  | answered _ _ =>
    obtain ⟨_, _, equal, _⟩ := mem_starts.mp asked
    contradiction
  | started _ waiting =>
    simp only [takeFirstProbe, waiting, List.mem_cons, reduceCtorEq, false_or] at asked
    split at asked <;> simp at asked
  | reused _ _ _ | joined _ _ =>
    rcases mem_publish asked with calm | ⟨_, equal⟩ | ⟨_, equal⟩
    · exact calm.elim
    · contradiction
    · contradiction
  | cancelled _ | stopped _ => exact (notCalm (.cancel _ _)).elim
  | missed _ | probed _ _ | next | setHealthy _ _ | hold | keepRefreshing => simp at asked
  | letGo => exact (notCalm (.of_quiet (quiet_release _))).elim
  | dispose other => exact (notCalm (.of_quiet (quiet_disposal pool other))).elim
  | shutDown =>
    simp only [List.mem_append, List.mem_singleton, reduceCtorEq, or_false] at asked
    cases asked with
    | inl told => split at told <;> simp at told
    | inr disposed => exact (Calm.of_quiet (quiet_disposeAll _ _) _ disposed).elim

/-- The settings of a pool that probes with some period. -/
def probingEvery (period : Nat) : Settings :=
  { hostname := "api"
    prober := { target := ⟨.http, "api", 80⟩, healthPath := "/health", readTimeout := ⟨1⟩ }
    probePeriod := some period }

end OneHost.Pool
