import OneHost.Proofs.Pool.WellFormed

/-!
# The order of snapshots

Readers see snapshots in the order in which they were published, and those come in the order in
which the resolver gave the answers behind them. An answer that a refresh still has in hand is newer
than all that were published.
-/

namespace OneHost.Pool

variable {pool before after : Pool} {taken : List (List Ip)} {published : List Snapshot}

/-- The answer that a refresh takes in a step. -/
def takenAnswer? (pool : Pool) : Input → Option (List Ip)
  | .answered id (.ok answer) =>
    match pool.refreshes with
    | ⟨other, _, .lookingUp⟩ :: _ => if other = id then some answer else none
    | _ => none
  | _ => none

/-- The answers that refreshes take through some inputs, in the order in which they come. -/
def answers (pool : Pool) : List Input → List (List Ip)
  | [] => []
  | input :: inputs => (pool.takenAnswer? input).toList ++ (pool.step input).1.answers inputs

/-- The answer that a refresh has in hand. -/
def Refresh.answer? (refresh : Refresh) : Option (List Ip) :=
  match refresh.phase with
  | .starting _ answer _ => some answer
  | _ => none

/-- The answers in hand. -/
def inHand (pool : Pool) : List (List Ip) :=
  pool.refreshes.filterMap Refresh.answer?

/-- Only the first refresh can have an answer in hand. -/
theorem WellFormed.inHand_eq {first : Refresh} {rest : List Refresh} (wellFormed : WellFormed pool)
    (working : pool.refreshes = first :: rest) : pool.inHand = first.answer?.toList := by
  have none : rest.filterMap Refresh.answer? = [] := by
    apply List.filterMap_eq_nil_iff.mpr
    intro refresh member
    simp [Refresh.answer?, wellFormed.waiting_of_mem working member]
  cases answer : first.answer? <;> simp [inHand, working, answer, none]

theorem inHand_sublist (wellFormed : WellFormed after)
    (queued : Queued before.refreshes after.refreshes) :
    after.inHand.Sublist before.inHand := by
  cases working : after.refreshes with
  | nil => simp [inHand, working]
  | cons first rest =>
    rw [wellFormed.inHand_eq working]
    cases answer : first.answer? with
    | none => exact List.nil_sublist _
    | some given =>
      refine List.singleton_sublist.mpr (List.mem_filterMap.mpr ⟨first, ?_, answer⟩)
      rcases queued.origin first (working ▸ List.mem_cons_self) with there | waiting | lookingUp
      · exact there
      · simp [Refresh.answer?, waiting] at answer
      · simp [Refresh.answer?, lookingUp] at answer

/-- A snapshot has the addresses of an answer and no others, and all of its endpoints have been
probed. -/
structure Shows (pool : Pool) (snapshot : Snapshot) (answer : List Ip) : Prop where
  addresses : (snapshot.rotation.members.filterMap pool.roster.ipAt).Perm answer
  probed : ∀ position ∈ snapshot.rotation.members, ∃ endpoint,
    pool.roster.get? position = some endpoint ∧ endpoint.health.probed = true

/-- Endpoints stay where they are, and probed. -/
theorem Shows.mono {snapshot : Snapshot} {answer : List Ip} (shows : before.Shows snapshot answer)
    (wellFormed : WellFormed after)
    (ipAt : ∀ position ip, before.roster.ipAt position = some ip →
      after.roster.ipAt position = some ip) :
    after.Shows snapshot answer := by
  have goesOn : ∀ position ∈ snapshot.rotation.members, ∃ ip,
      before.roster.ipAt position = some ip ∧ after.roster.ipAt position = some ip := by
    intro position member
    obtain ⟨endpoint, found, _⟩ := shows.probed position member
    have found : before.roster.ipAt position = some endpoint.ip := by simp [Roster.ipAt, found]
    exact ⟨_, found, ipAt position _ found⟩
  constructor
  case addresses =>
    rw [List.filterMap_congr fun position member => ?_]
    · exact shows.addresses
    · rcases goesOn position member with ⟨ip, foundBefore, foundAfter⟩
      rw [foundBefore, foundAfter]
  case probed =>
    intro position member
    obtain ⟨ip, _, foundAfter⟩ := goesOn position member
    rcases Option.map_eq_some_iff.mp foundAfter with ⟨endpoint, found, _⟩
    exact ⟨endpoint, found, wellFormed.probed position endpoint found⟩

/-- The history of a pool, given the answers that were taken and the snapshots that were
published. -/
structure Chronicle (pool : Pool) (taken : List (List Ip)) (published : List Snapshot) : Prop where
  number : pool.number = published.length
  /-- What readers see is the empty snapshot or a published one. -/
  seen : ∀ snapshot ∈ pool.snapshot :: pool.held,
    ∃ earlier, (⟨0, .empty⟩ :: published)[snapshot.number]? = some earlier ∧
      earlier.rotation.members = snapshot.rotation.members
  /-- What was published has the addresses of answers, in their order. -/
  order : ∃ used, (used ++ pool.inHand).Sublist taken ∧
    List.Forall₂ pool.Shows published used

namespace Chronicle

theorem of_make (settings : Settings) : Chronicle (make settings) [] [] where
  number := rfl
  seen snapshot member := by
    simp only [make, List.mem_singleton] at member
    subst member
    exact ⟨_, rfl, rfl⟩
  order := ⟨[], by simp [inHand, make], .nil⟩

/-- What a step without a new answer or snapshot leaves of the history. -/
theorem of_kept (chronicle : Chronicle before taken published) (kept : Kept before after)
    (queued : Queued before.refreshes after.refreshes) (wellFormed : WellFormed after)
    (more : List (List Ip)) : Chronicle after (taken ++ more) published := by
  constructor
  case number => rw [kept.number, chronicle.number]
  case seen =>
    have current : after.snapshot.number = before.snapshot.number ∧
        after.snapshot.rotation.members = before.snapshot.rotation.members :=
      ⟨kept.number, kept.members⟩
    intro snapshot member
    rcases List.mem_cons.mp member with rfl | isHeld
    · rw [current.1, current.2]
      exact chronicle.seen _ List.mem_cons_self
    · rcases kept.held snapshot isHeld with earlier | rfl
      · exact chronicle.seen snapshot (List.mem_cons_of_mem _ earlier)
      · exact chronicle.seen _ List.mem_cons_self
  case order =>
    obtain ⟨used, inOrder, shows⟩ := chronicle.order
    refine ⟨used, ?_, shows.imp fun _ _ shows => shows.mono wellFormed fun position _ found => ?_⟩
    · exact (((inHand_sublist wellFormed queued).append_left used).trans inOrder).trans
        (List.sublist_append_left _ _)
    · exact (kept.roster.ipAt position).trans found

theorem answered {id : Nat} {origin : Origin} {rest : List Refresh}
    (chronicle : Chronicle pool taken published) (wellFormed : WellFormed pool)
    (working : pool.refreshes = ⟨id, origin, .lookingUp⟩ :: rest) (answer : List Ip) :
    Chronicle (pool.withAnswer answer) (taken ++ [answer]) published where
  number := chronicle.number
  seen := chronicle.seen
  order := by
    rcases chronicle.order with ⟨used, inOrder, shows⟩
    have answered := wellFormed.withAnswer working answer
    rw [wellFormed.inHand_eq working] at inOrder
    refine ⟨used, ?_, shows.imp fun _ _ shows => shows.mono answered fun _ _ found => found⟩
    rw [answered.inHand_eq (refreshes_withAnswer working answer)]
    exact ((List.sublist_append_left _ _).trans inOrder).append_right [answer]

theorem started {id : Nat} {origin : Origin} {rest : List Refresh} {previous : List Nat}
    {answer : List Ip} {slots : List Slot} {slot : Nat} {endpoint : Endpoint}
    (chronicle : Chronicle pool taken published) (wellFormed : WellFormed pool)
    (working : pool.refreshes = ⟨id, origin, .starting previous answer slots⟩ :: rest)
    (waiting : slots[slot]? = some (.starting endpoint.ip))
    (probed : endpoint.health.probed = true) :
    Chronicle (pool.withEndpoint previous answer slots slot endpoint) taken published where
  number := chronicle.number
  seen := chronicle.seen
  order := by
    obtain ⟨used, inOrder, shows⟩ := chronicle.order
    have filled := wellFormed.withEndpoint working waiting probed
    have same : (pool.withEndpoint previous answer slots slot endpoint).inHand = pool.inHand := by
      simp [inHand, withEndpoint, setPhase, working, Refresh.answer?]
    exact ⟨used, same ▸ inOrder,
      shows.imp fun _ _ shows => shows.mono filled fun _ _ => ipAt_push endpoint⟩

theorem publish {id : Nat} {origin : Origin} {rest : List Refresh} {previous : List Nat}
    {answer : List Ip} {slots : List Slot} (chronicle : Chronicle pool taken published)
    (wellFormed : WellFormed pool)
    (working : pool.refreshes = ⟨id, origin, .starting previous answer slots⟩ :: rest)
    (complete : slots.all (·.endpoint?.isSome) = true) :
    Chronicle (pool.publish id origin previous answer slots).1 taken
      (published ++ shown (pool.publish id origin previous answer slots).2) := by
  rw [publish_fst, shown_publish]
  have fits := (wellFormed.fits_first working).2
  have replaced := (wellFormed.replaced working).settled
  constructor
  case number =>
    rw [List.length_append, ← chronicle.number]
    rfl
  case seen =>
    intro snapshot member
    rcases List.mem_cons.mp member with rfl | isHeld
    · have last (newest : Snapshot) :
          (⟨0, .empty⟩ :: (published ++ [newest]))[pool.number + 1]? = some newest := by
        rw [chronicle.number, List.getElem?_cons_succ, List.getElem?_concat_length]
      exact ⟨_, last _, rfl⟩
    · rcases chronicle.seen snapshot (List.mem_cons_of_mem _ isHeld) with ⟨earlier, atNumber, same⟩
      refine ⟨earlier, ?_, same⟩
      rw [← List.cons_append, List.getElem?_append_left (List.getElem?_eq_some_iff.mp atNumber).1]
      exact atNumber
  case order =>
    obtain ⟨used, inOrder, shows⟩ := chronicle.order
    have sameIp (position : Nat) :
        (pool.replaced previous answer slots).settled.roster.ipAt position =
          pool.roster.ipAt position :=
      (ipAt_disposed ..).trans (ipAt_disposed ..)
    have emptied : (pool.replaced previous answer slots).settled.inHand = [] := by
      apply List.filterMap_eq_nil_iff.mpr
      intro refresh member
      rcases (Queued.of_begun _).origin refresh member with later | waiting | lookingUp
      · have isRest : refresh ∈ rest := by
          simpa only [Pool.replaced, working, List.drop_succ_cons, List.drop_zero] using later
        simp [Refresh.answer?, wellFormed.waiting_of_mem working isRest]
      · simp [Refresh.answer?, waiting]
      · simp [Refresh.answer?, lookingUp]
    -- The answer in hand is used up, so it moves from the one side of the order to the other.
    refine ⟨used ++ [answer], ?_, List.rel_append ?_ (.cons ⟨?_, ?_⟩ .nil)⟩
    · rw [emptied, List.append_nil]
      rwa [wellFormed.inHand_eq working] at inOrder
    · exact shows.imp fun _ _ shows =>
        shows.mono replaced fun position _ found => (sameIp position).trans found
    · have same : (pool.replaced previous answer slots).settled.roster.ipAt =
          (pool.replaced previous answer slots).roster.ipAt :=
        funext fun position => ipAt_disposed ..
      rw [same]
      exact addresses_replaced previous fits complete
    · intro position member
      rcases replaced.present position member with ⟨ip, found⟩
      obtain ⟨endpoint, there, _⟩ := Option.map_eq_some_iff.mp found
      exact ⟨endpoint, there, replaced.probed position endpoint there⟩

theorem step (chronicle : Chronicle pool taken published) (wellFormed : WellFormed pool)
    (input : Input) :
    Chronicle (pool.step input).1 (taken ++ (pool.takenAnswer? input).toList)
      (published ++ shown (pool.step input).2) := by
  have stepped := wellFormed.step input
  obtain ⟨after, effects, becomes, acts⟩ := exists_acts pool input
  rw [becomes] at stepped ⊢
  cases acts with
  | aside kept queued hidden =>
    rw [hidden, List.append_nil]
    exact chronicle.of_kept kept queued stepped _
  | answered working _ =>
    rw [shown_starts, List.append_nil]
    simp only [takenAnswer?, working, if_true]
    exact chronicle.answered wellFormed working _
  | started working waiting hidden =>
    rw [hidden, List.append_nil]
    simp only [takenAnswer?, Option.toList_none, List.append_nil]
    exact chronicle.started wellFormed working waiting rfl
  | reused working _ complete =>
    simp only [takenAnswer?, working, if_true]
    exact (chronicle.answered wellFormed working _).publish (wellFormed.withAnswer working _)
      (refreshes_withAnswer working _) complete
  | joined working complete =>
    simp only [takenAnswer?, Option.toList_none, List.append_nil]
    exact chronicle.publish wellFormed working complete

theorem run (chronicle : Chronicle pool taken published) (wellFormed : WellFormed pool)
    (inputs : List Input) :
    Chronicle (pool.run inputs).1 (taken ++ pool.answers inputs)
      (published ++ shown (pool.run inputs).2) := by
  induction inputs generalizing pool taken published with
  | nil => simpa [Pool.run, answers, shown] using chronicle
  | cons input rest ih =>
    simpa [Pool.run, answers] using ih (chronicle.step wellFormed input) (wellFormed.step input)

end Chronicle

end OneHost.Pool
