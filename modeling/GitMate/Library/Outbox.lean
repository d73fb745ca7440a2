import Mathlib.Data.Nat.Basic

namespace Publishing

/-!
# An outbox with counted attempts

An item waits in an outbox until one of many publishers has sent it.  A
publisher works on a snapshot it has read: it claims the next attempt, which
takes place only when the number of attempts has not changed since the
snapshot, sends the item, and records what became of the send.  A send may be
accepted although its publisher learns nothing of that, and a publisher may
stop anywhere.

The outbox keeps one mark beside the number of attempts: whether an earlier
send may have been accepted.  A publisher may give the item up only on the
evidence of an unmarked snapshot and a definite rejection of its own send.
The invariant below shows that this evidence suffices as long as nobody but
the publishers writes to a waiting item: what is given up was never accepted.
-/

/-- What a publisher learns from its send.  Any answer but a definite
rejection leaves it open whether the item was accepted. -/
inductive Answer where
  | rejected
  | inconclusive
  deriving DecidableEq

/-- An attempt that a publisher has claimed and not yet recorded. -/
structure Attempt where
  number : Nat
  /-- The snapshot was marked. -/
  doubtful : Bool
  sent : Option Answer

inductive Phase where
  /-- Only publishers write to the item. -/
  | waiting (marked : Bool)
  /-- The item was received, or it ended in another way. -/
  | begun
  | givenUp

structure Outbox (Publisher : Type) where
  /-- The attempts claimed so far. -/
  attempts : Nat
  phase : Phase
  /-- A send of the item was accepted. -/
  accepted : Prop
  attempt : Publisher -> Option Attempt
  /-- A publisher has read the item with this number of attempts and this
  mark. -/
  seen : Publisher -> Nat -> Bool -> Prop

variable {Publisher : Type}

namespace Outbox

/-- No publisher is about to send the item. -/
def Unsent (outbox : Outbox Publisher) : Prop :=
  forall publisher attempt, outbox.attempt publisher = some attempt -> attempt.sent ≠ none

/-- What a publisher that reads the item sees.  Once the item has begun its
mark means nothing. -/
def Shows (outbox : Outbox Publisher) (number : Nat) (marked : Bool) : Prop :=
  number = outbox.attempts ∧ forall mark, outbox.phase = .waiting mark -> marked = mark

/-- Publishers have seen nothing but what they had seen and what the item
shows now. -/
def Reads (before after : Outbox Publisher) : Prop :=
  forall publisher number marked, after.seen publisher number marked ->
    before.seen publisher number marked ∨ after.Shows number marked

/-- Publishers may forget what they have seen. -/
def Forgets (before after : Outbox Publisher) : Prop :=
  forall publisher number marked, after.seen publisher number marked ->
    before.seen publisher number marked

/-- Publishers may abandon their attempts. -/
def Abandons (before after : Outbox Publisher) : Prop :=
  forall publisher attempt, after.attempt publisher = some attempt ->
    before.attempt publisher = some attempt

/-- Other publishers keep their attempts. -/
def OthersKeep (before after : Outbox Publisher) (publisher : Publisher) : Prop :=
  forall other, other ≠ publisher -> after.attempt other = before.attempt other

/-- The phase after a claim: the item is marked while it waits. -/
inductive ClaimedPhase : Phase -> Phase -> Prop where
  | waiting (marked : Bool) : ClaimedPhase (.waiting marked) (.waiting true)
  | begun : ClaimedPhase .begun .begun

/-- The phase after an attempt was recorded.  It may leave the item unmarked
when it is as good as if it had not been made. -/
inductive RecordedPhase (attempt : Attempt) : Phase -> Phase -> Prop where
  | waiting (marked remains : Bool)
      (evidence : remains = false -> attempt.doubtful = false ∧ attempt.sent = some .rejected) :
      RecordedPhase attempt (.waiting marked) (.waiting remains)
  | begun : RecordedPhase attempt .begun .begun

inductive Step (before after : Outbox Publisher) : Prop where
  /-- Nothing happens to the item. -/
  | quiet (attempts : after.attempts = before.attempts) (phase : after.phase = before.phase)
      (accepted : after.accepted -> before.accepted) (abandons : Abandons before after)
      (reads : Reads before after)
  | claim (publisher : Publisher) (doubtful : Bool)
      (snapshot : before.seen publisher before.attempts doubtful)
      (attempts : after.attempts = before.attempts + 1)
      (phase : ClaimedPhase before.phase after.phase)
      (accepted : after.accepted -> before.accepted)
      (attempt : forall attempt, after.attempt publisher = some attempt ->
        attempt = ⟨before.attempts + 1, doubtful, none⟩)
      (others : OthersKeep before after publisher) (forgets : Forgets before after)
  | send (publisher : Publisher) (attempt : Attempt) (answer : Answer)
      (current : before.attempt publisher = some attempt) (unsent : attempt.sent = none)
      (attempts : after.attempts = before.attempts) (phase : after.phase = before.phase)
      (accepted : after.accepted -> before.accepted ∨ answer = .inconclusive)
      (sent : after.attempt publisher = some { attempt with sent := some answer })
      (others : OthersKeep before after publisher) (forgets : Forgets before after)
  | record (publisher : Publisher) (attempt : Attempt)
      (current : before.attempt publisher = some attempt)
      (latest : attempt.number = before.attempts) (attempts : after.attempts = before.attempts)
      (phase : RecordedPhase attempt before.phase after.phase)
      (accepted : after.accepted -> before.accepted) (closed : after.attempt publisher = none)
      (others : OthersKeep before after publisher) (forgets : Forgets before after)
  | giveUp (publisher : Publisher) (attempt : Attempt) (marked : Bool)
      (current : before.attempt publisher = some attempt)
      (latest : attempt.number = before.attempts) (waiting : before.phase = .waiting marked)
      (certain : attempt.doubtful = false) (rejected : attempt.sent = some .rejected)
      (attempts : after.attempts = before.attempts) (ended : after.phase = .givenUp)
      (accepted : after.accepted -> before.accepted) (closed : after.attempt publisher = none)
      (others : OthersKeep before after publisher) (forgets : Forgets before after)
  /-- The item is received, or ends in another way. -/
  | begin (possible : before.phase ≠ .givenUp) (begun : after.phase = .begun)
      (attempts : after.attempts = before.attempts) (abandons : Abandons before after)
      (reads : Reads before after)

/-- Every attempt has a number of its own, and no snapshot is ahead of the
item. -/
structure Counted (outbox : Outbox Publisher) : Prop where
  numbered : forall publisher attempt, outbox.attempt publisher = some attempt ->
    attempt.number ≤ outbox.attempts
  distinct : forall publisher other attempt more, outbox.attempt publisher = some attempt ->
    outbox.attempt other = some more -> attempt.number = more.number -> publisher = other
  seenBefore : forall publisher number mark, outbox.seen publisher number mark ->
    number ≤ outbox.attempts

/-- The invariant of a waiting item. -/
structure Waiting (outbox : Outbox Publisher) (marked : Bool) : Prop where
  /-- An unmarked snapshot that is not outdated shows an unmarked item. -/
  fresh : forall publisher, outbox.seen publisher outbox.attempts false -> marked = false
  /-- While the latest attempt is not recorded the item is marked. -/
  current : forall publisher attempt, outbox.attempt publisher = some attempt ->
    attempt.number = outbox.attempts -> marked = true
  /-- An unmarked item was not accepted, and it will not be. -/
  unmarked : marked = false -> ¬ outbox.accepted ∧ outbox.Unsent
  /-- Under an unmarked snapshot only the send of the latest attempt itself
  can have been accepted. -/
  own : forall publisher attempt, outbox.attempt publisher = some attempt ->
    attempt.number = outbox.attempts -> attempt.doubtful = false ->
      (outbox.accepted -> attempt.sent = some .inconclusive) ∧
        forall other more, other ≠ publisher -> outbox.attempt other = some more ->
          more.sent ≠ none

/-- The invariant of an outbox. -/
structure Sound (outbox : Outbox Publisher) : Prop where
  counted : outbox.Counted
  waiting : forall marked, outbox.phase = .waiting marked -> outbox.Waiting marked
  givenUp : outbox.phase = .givenUp -> ¬ outbox.accepted ∧ outbox.Unsent

/-- An item that nobody has claimed or seen in another state is sound. -/
theorem sound_initial {outbox : Outbox Publisher} (phase : outbox.phase ≠ .givenUp)
    (unaccepted : ¬ outbox.accepted)
    (unclaimed : forall publisher, outbox.attempt publisher = none)
    (snapshots : forall publisher number mark, outbox.seen publisher number mark ->
      outbox.Shows number mark) : outbox.Sound where
  counted := {
    numbered := fun publisher attempt claimed => by
      rw [unclaimed] at claimed
      cases claimed
    distinct := fun publisher other attempt more claimed => by
      rw [unclaimed] at claimed
      cases claimed
    seenBefore := fun publisher number mark seen =>
      Nat.le_of_eq (snapshots publisher number mark seen).1 }
  waiting marked here := {
    fresh := fun publisher seen => ((snapshots publisher _ false seen).2 marked here).symm
    current := fun publisher attempt claimed => by
      rw [unclaimed] at claimed
      cases claimed
    unmarked := fun _ => ⟨unaccepted, fun publisher attempt claimed => by
      rw [unclaimed] at claimed
      cases claimed⟩
    own := fun publisher attempt claimed => by
      rw [unclaimed] at claimed
      cases claimed }
  givenUp ended := absurd ended phase

section Preservation

variable {before after : Outbox Publisher}

/-! ## Numbers -/

theorem Counted.abandon (counted : before.Counted) (attempts : after.attempts = before.attempts)
    (abandons : Abandons before after) (reads : Reads before after) : after.Counted where
  numbered publisher attempt claimed := by
    rw [attempts]
    exact counted.numbered publisher attempt (abandons publisher attempt claimed)
  distinct publisher other attempt more claimed alsoClaimed :=
    counted.distinct publisher other attempt more (abandons publisher attempt claimed)
      (abandons other more alsoClaimed)
  seenBefore publisher number mark saw := by
    rcases reads publisher number mark saw with old | now
    · rw [attempts]
      exact counted.seenBefore publisher number mark old
    · exact Nat.le_of_eq now.1

/-- The attempts after a claim are the claimed one and those of others. -/
theorem claimed_origin {publisher : Publisher} {claimed : Attempt}
    (attempt : forall attempt, after.attempt publisher = some attempt -> attempt = claimed)
    (others : OthersKeep before after publisher) {other : Publisher} {current : Attempt}
    (there : after.attempt other = some current) :
    other = publisher ∧ current = claimed ∨
      other ≠ publisher ∧ before.attempt other = some current := by
  by_cases same : other = publisher
  · subst same
    exact Or.inl ⟨rfl, attempt current there⟩
  · rw [others other same] at there
    exact Or.inr ⟨same, there⟩

theorem Counted.claim (counted : before.Counted) {publisher : Publisher} {doubtful : Bool}
    (attempts : after.attempts = before.attempts + 1)
    (attempt : forall attempt, after.attempt publisher = some attempt ->
      attempt = ⟨before.attempts + 1, doubtful, none⟩)
    (others : OthersKeep before after publisher) (forgets : Forgets before after) :
    after.Counted := by
  constructor
  · intro other current there
    rw [attempts]
    rcases claimed_origin attempt others there with ⟨_, rfl⟩ | ⟨_, old⟩
    · exact Nat.le_refl _
    · exact Nat.le_succ_of_le (counted.numbered other current old)
  · intro one two current more there alsoThere same
    rcases claimed_origin attempt others there with ⟨rfl, rfl⟩ | ⟨_, old⟩
    · rcases claimed_origin attempt others alsoThere with ⟨rfl, _⟩ | ⟨_, alsoOld⟩
      · rfl
      · have bound := counted.numbered two more alsoOld
        simp only at same
        omega
    · rcases claimed_origin attempt others alsoThere with ⟨rfl, rfl⟩ | ⟨_, alsoOld⟩
      · have bound := counted.numbered one current old
        simp only at same
        omega
      · exact counted.distinct one two current more old alsoOld same
  · intro other number mark saw
    rw [attempts]
    exact Nat.le_succ_of_le (counted.seenBefore other number mark (forgets other number mark saw))

/-- A send leaves the numbers and the snapshots of attempts as they were. -/
theorem sent_origin {publisher : Publisher} {attempt : Attempt} {answer : Answer}
    (claimed : before.attempt publisher = some attempt)
    (sent : after.attempt publisher = some { attempt with sent := some answer })
    (others : OthersKeep before after publisher) {other : Publisher} {current : Attempt}
    (there : after.attempt other = some current) :
    Exists fun old => before.attempt other = some old ∧ old.number = current.number ∧
      old.doubtful = current.doubtful := by
  by_cases same : other = publisher
  · subst same
    rw [sent] at there
    cases there
    exact ⟨attempt, claimed, rfl, rfl⟩
  · rw [others other same] at there
    exact ⟨current, there, rfl, rfl⟩

theorem Counted.send (counted : before.Counted) {publisher : Publisher} {attempt : Attempt}
    {answer : Answer} (claimed : before.attempt publisher = some attempt)
    (attempts : after.attempts = before.attempts)
    (sent : after.attempt publisher = some { attempt with sent := some answer })
    (others : OthersKeep before after publisher) (forgets : Forgets before after) :
    after.Counted := by
  constructor
  · intro other current there
    rcases sent_origin claimed sent others there with ⟨old, found, number, _⟩
    rw [attempts, ← number]
    exact counted.numbered other old found
  · intro one two current more there alsoThere same
    rcases sent_origin claimed sent others there with ⟨old, found, number, _⟩
    rcases sent_origin claimed sent others alsoThere with ⟨other, alsoFound, alsoNumber, _⟩
    exact counted.distinct one two old other found alsoFound
      ((number.trans same).trans alsoNumber.symm)
  · intro other number mark saw
    rw [attempts]
    exact counted.seenBefore other number mark (forgets other number mark saw)

/-- Closing an attempt abandons it. -/
theorem abandons_of_closed {publisher : Publisher} (closed : after.attempt publisher = none)
    (others : OthersKeep before after publisher) : Abandons before after := by
  intro other current there
  by_cases same : other = publisher
  · rw [same, closed] at there
    cases there
  · rw [others other same] at there
    exact there

/-! ## Marks -/

theorem Waiting.quiet {marked : Bool} (waiting : before.Waiting marked)
    (phase : after.phase = .waiting marked) (attempts : after.attempts = before.attempts)
    (accepted : after.accepted -> before.accepted) (abandons : Abandons before after)
    (reads : Reads before after) : after.Waiting marked where
  fresh publisher saw := by
    rcases reads publisher _ false saw with old | now
    · rw [attempts] at old
      exact waiting.fresh publisher old
    · exact (now.2 marked phase).symm
  current publisher attempt claimed latest :=
    waiting.current publisher attempt (abandons publisher attempt claimed)
      (latest.trans attempts)
  unmarked unmarked :=
    ⟨fun taken => (waiting.unmarked unmarked).1 (accepted taken),
      fun publisher attempt claimed =>
        (waiting.unmarked unmarked).2 publisher attempt (abandons publisher attempt claimed)⟩
  own publisher attempt claimed latest certain := by
    have alone := waiting.own publisher attempt (abandons publisher attempt claimed)
      (latest.trans attempts) certain
    exact ⟨fun taken => alone.1 (accepted taken),
      fun other more different alsoClaimed =>
        alone.2 other more different (abandons other more alsoClaimed)⟩

/-- A claim under a snapshot that is not outdated. -/
theorem Waiting.claim {marked doubtful : Bool} {publisher : Publisher}
    (counted : before.Counted) (waiting : before.Waiting marked)
    (snapshot : before.seen publisher before.attempts doubtful)
    (attempts : after.attempts = before.attempts + 1)
    (accepted : after.accepted -> before.accepted)
    (attempt : forall attempt, after.attempt publisher = some attempt ->
      attempt = ⟨before.attempts + 1, doubtful, none⟩)
    (others : OthersKeep before after publisher) (forgets : Forgets before after) :
    after.Waiting true := by
  constructor
  · intro other saw
    have bound := counted.seenBefore other _ false (forgets other _ false saw)
    omega
  · exact fun _ _ _ _ => rfl
  · intro unmarked
    cases unmarked
  · intro other current there latest certain
    rcases claimed_origin attempt others there with ⟨rfl, rfl⟩ | ⟨_, old⟩
    · -- The snapshot was unmarked, and so was the item.
      have certain : doubtful = false := certain
      subst certain
      have clean := waiting.unmarked (waiting.fresh other snapshot)
      refine ⟨fun taken => absurd (accepted taken) clean.1, fun third more different alsoThere => ?_⟩
      rw [others third different] at alsoThere
      exact clean.2 third more alsoThere
    · have bound := counted.numbered other current old
      omega

theorem Waiting.send {marked : Bool} {publisher : Publisher} {attempt : Attempt}
    {answer : Answer} (waiting : before.Waiting marked)
    (claimed : before.attempt publisher = some attempt) (unsent : attempt.sent = none)
    (attempts : after.attempts = before.attempts)
    (accepted : after.accepted -> before.accepted ∨ answer = .inconclusive)
    (sent : after.attempt publisher = some { attempt with sent := some answer })
    (others : OthersKeep before after publisher) (forgets : Forgets before after) :
    after.Waiting marked := by
  constructor
  · intro other saw
    rw [attempts] at saw
    exact waiting.fresh other (forgets other _ false saw)
  · intro other current there latest
    rcases sent_origin claimed sent others there with ⟨old, found, number, _⟩
    exact waiting.current other old found ((number.trans latest).trans attempts)
  · intro unmarked
    exact absurd unsent ((waiting.unmarked unmarked).2 publisher attempt claimed)
  · intro other current there latest certain
    by_cases same : other = publisher
    · subst same
      rw [sent] at there
      cases there
      have alone := waiting.own other attempt claimed (latest.trans attempts) certain
      refine ⟨fun taken => ?_, fun third more different alsoThere => ?_⟩
      · rcases accepted taken with before | conclusive
        · have answered := alone.1 before
          rw [unsent] at answered
          cases answered
        · exact congrArg some conclusive
      · rw [others third different] at alsoThere
        exact alone.2 third more different alsoThere
    · rw [others other same] at there
      exact absurd unsent ((waiting.own other current there (latest.trans attempts) certain).2
        publisher attempt (Ne.symm same) claimed)

/-- After a definite rejection of the latest attempt under an unmarked
snapshot the item is as it was before the attempt. -/
theorem Waiting.rejected {marked : Bool} {publisher : Publisher} {attempt : Attempt}
    (waiting : before.Waiting marked) (claimed : before.attempt publisher = some attempt)
    (latest : attempt.number = before.attempts) (certain : attempt.doubtful = false)
    (rejected : attempt.sent = some .rejected) (accepted : after.accepted -> before.accepted)
    (closed : after.attempt publisher = none) (others : OthersKeep before after publisher) :
    ¬ after.accepted ∧ after.Unsent := by
  have alone := waiting.own publisher attempt claimed latest certain
  constructor
  · intro taken
    have answered := alone.1 (accepted taken)
    rw [rejected] at answered
    cases answered
  · intro other more there
    have different : other ≠ publisher := by
      intro same
      rw [same, closed] at there
      cases there
    rw [others other different] at there
    exact alone.2 other more different there

theorem Waiting.record {marked remains : Bool} {publisher : Publisher} {attempt : Attempt}
    (counted : before.Counted) (waiting : before.Waiting marked)
    (claimed : before.attempt publisher = some attempt) (latest : attempt.number = before.attempts)
    (attempts : after.attempts = before.attempts)
    (evidence : remains = false -> attempt.doubtful = false ∧ attempt.sent = some .rejected)
    (accepted : after.accepted -> before.accepted) (closed : after.attempt publisher = none)
    (others : OthersKeep before after publisher) (forgets : Forgets before after) :
    after.Waiting remains := by
  -- The recorded attempt was the latest one, and nobody else has its number.
  have unique : forall other current, after.attempt other = some current ->
      current.number ≠ after.attempts := by
    intro other current there same
    have old := abandons_of_closed closed others other current there
    have only := counted.distinct other publisher current attempt old claimed
      ((same.trans attempts).trans latest.symm)
    rw [only, closed] at there
    cases there
  have marked := waiting.current publisher attempt claimed latest
  constructor
  · intro other saw
    rw [attempts] at saw
    have unmarked := waiting.fresh other (forgets other _ false saw)
    rw [marked] at unmarked
    cases unmarked
  · exact fun other current there same => absurd same (unique other current there)
  · intro unmarked
    have proof := evidence unmarked
    exact waiting.rejected claimed latest proof.1 proof.2 accepted closed others
  · exact fun other current there same => absurd same (unique other current there)

/-! ## Every step keeps the invariant -/

theorem reads_of_forgets (forgets : Forgets before after) : Reads before after :=
  fun publisher number marked saw => Or.inl (forgets publisher number marked saw)

theorem Sound.step (sound : before.Sound) (step : before.Step after) : after.Sound := by
  cases step with
  | quiet attempts phase accepted abandons reads =>
      refine ⟨sound.counted.abandon attempts abandons reads, fun marked here => ?_, fun ended => ?_⟩
      · exact (sound.waiting marked (phase.symm.trans here)).quiet here attempts accepted abandons
          reads
      · rw [phase] at ended
        have settled := sound.givenUp ended
        exact ⟨fun taken => settled.1 (accepted taken),
          fun publisher attempt there => settled.2 publisher attempt (abandons _ _ there)⟩
  | claim publisher doubtful snapshot attempts phase accepted attempt others forgets =>
      refine ⟨sound.counted.claim attempts attempt others forgets, fun marked here => ?_,
        fun ended => ?_⟩
      · rw [here] at phase
        generalize earlier : before.phase = old at phase
        cases phase with
        | waiting mark =>
            exact Waiting.claim sound.counted (sound.waiting mark earlier) snapshot attempts accepted
              attempt others forgets
      · rw [ended] at phase
        generalize before.phase = old at phase
        cases phase
  | send publisher attempt answer current unsent attempts phase accepted sent others forgets =>
      refine ⟨sound.counted.send current attempts sent others forgets, fun marked here => ?_,
        fun ended => ?_⟩
      · rw [phase] at here
        exact (sound.waiting marked here).send current unsent attempts accepted sent others forgets
      · rw [phase] at ended
        exact absurd unsent ((sound.givenUp ended).2 publisher attempt current)
  | record publisher attempt current latest attempts phase accepted closed others forgets =>
      refine ⟨sound.counted.abandon attempts (abandons_of_closed closed others)
        (reads_of_forgets forgets), fun marked here => ?_, fun ended => ?_⟩
      · rw [here] at phase
        generalize earlier : before.phase = old at phase
        cases phase with
        | waiting mark remains evidence =>
            exact Waiting.record sound.counted (sound.waiting mark earlier) current latest attempts
              evidence accepted closed others forgets
      · rw [ended] at phase
        generalize before.phase = old at phase
        cases phase
  | giveUp publisher attempt marked current latest waiting certain rejected attempts ended accepted
      closed others forgets =>
      refine ⟨sound.counted.abandon attempts (abandons_of_closed closed others)
        (reads_of_forgets forgets), fun mark here => ?_, fun _ => ?_⟩
      · rw [ended] at here
        cases here
      · exact (sound.waiting marked waiting).rejected current latest certain rejected accepted closed
          others
  | begin possible begun attempts abandons reads =>
      refine ⟨sound.counted.abandon attempts abandons reads, fun mark here => ?_, fun ended => ?_⟩
      · rw [begun] at here
        cases here
      · rw [begun] at ended
        cases ended

end Preservation

end Outbox
end Publishing
