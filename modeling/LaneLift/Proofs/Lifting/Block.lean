import LaneLift.Lifting.Stepping
import LaneLift.Proofs.Lifting.Planning

/-!
# Blocks

A block that is lifted means the sequence of its words: its function leaves the
registers that the words leave when each is lifted and run on its own, one after
another. Where a block is cut, and where it lies, does not change its code.
-/

namespace LaneLift

open Guest (Address Word)
open Lane (Code CodeBuilder)

/-- Run words one after another, each lifted into a function of its own, the first
of them word `index` of the block at an address. The first word that is not lifted
or whose run fails ends it. -/
def runWords [FloatArithmetic] (settings : Settings) (address : Address) (index : Nat)
    (registers : RegisterFile) : List Word → Except LiftError Lane.Outcome
  | [] => .ok ⟨registers, .ok ()⟩
  | word :: rest =>
      match (stepWord settings (wordAddress address index) word registers).outcome with
      | .error error => .error error
      | .ok ⟨after, .error error⟩ => .ok ⟨after, .error error⟩
      | .ok ⟨after, .ok ()⟩ => runWords settings address (index + 1) after rest

variable {settings : Settings} {address : Address} {index count : Nat} {word : Word}
  {rest : List Word}

/-! ## Words of a block -/

theorem liftFrom_cons (accepted : (liftWord settings (wordAddress address index) word).result =
      .ok ()) :
    liftFrom settings address index (word :: rest) =
      { liftFrom settings address (index + 1) rest with
        segments := (liftWord settings (wordAddress address index) word).code ::
          (liftFrom settings address (index + 1) rest).segments
        log := (liftWord settings (wordAddress address index) word).log ++
          (liftFrom settings address (index + 1) rest).log } := by
  simp only [liftFrom, accepted]

theorem liftWord_of_liftFrom
    (accepted : (liftFrom settings address index (word :: rest)).result = .ok count) :
    (liftWord settings (wordAddress address index) word).result = .ok () := by
  cases lifted : (liftWord settings (wordAddress address index) word).result with
  | error error => simp [liftFrom, lifted] at accepted
  | ok _ => rfl

theorem runs_of_liftWord [FloatArithmetic]
    (accepted : (liftWord settings address word).result = .ok ()) :
    Lifting.Runs (liftWord settings address word).code := by
  rcases exists_plan accepted with ⟨row, plan, found, allowed, planned⟩
  rw [(liftWord_of_plan found allowed planned).1]
  exact (Lifting.sound_of_plan planned).runs

theorem liftFrom_elsewhere (settings : Settings) (address other : Address) :
    ∀ (words : List Word) (index otherIndex : Nat) {count : Nat},
      (liftFrom settings address index words).result = .ok count →
        (liftFrom settings other otherIndex words).result = .ok (otherIndex + words.length) ∧
        (liftFrom settings other otherIndex words).segments =
          (liftFrom settings address index words).segments
  | [], _, _, _, _ => ⟨rfl, rfl⟩
  | word :: rest, index, otherIndex, count, accepted => by
      have lifted := liftWord_of_liftFrom accepted
      have elsewhere := liftWord_elsewhere lifted (wordAddress other otherIndex)
      rw [liftFrom_cons lifted] at accepted ⊢
      rw [liftFrom_cons elsewhere.1]
      have behind := liftFrom_elsewhere settings address other rest (index + 1) (otherIndex + 1)
        accepted
      constructor
      · rw [behind.1, List.length_cons, Nat.add_assoc, Nat.add_comm 1]
      · rw [behind.2, elsewhere.2]

theorem liftFrom_append (settings : Settings) (address : Address) (second : List Word) :
    ∀ (first : List Word) (index : Nat) {count : Nat},
      (liftFrom settings address index (first ++ second)).result = .ok count →
        (liftFrom settings address index first).result = .ok (index + first.length) ∧
        (liftFrom settings address (index + first.length) second).result = .ok count ∧
        (liftFrom settings address index (first ++ second)).segments =
          (liftFrom settings address index first).segments ++
            (liftFrom settings address (index + first.length) second).segments
  | [], _, _, accepted => ⟨rfl, accepted, rfl⟩
  | word :: rest, index, count, accepted => by
      have lifted := liftWord_of_liftFrom accepted
      rw [List.cons_append, liftFrom_cons lifted] at accepted ⊢
      rw [liftFrom_cons lifted]
      have behind := liftFrom_append settings address second rest (index + 1) accepted
      have sameIndex : index + (word :: rest).length = index + 1 + rest.length := by
        rw [List.length_cons]
        omega
      rw [sameIndex]
      refine ⟨behind.1, behind.2.1, ?_⟩
      rw [behind.2.2, List.cons_append]

/-! ## Running a block -/

theorem runWords_cons [FloatArithmetic] {registers : RegisterFile} {after : Lane.Progress}
    (lifted : (liftWord settings (wordAddress address index) word).result = .ok ())
    (run : Code.Reaches ⟨[], registers⟩
      (liftWord settings (wordAddress address index) word).code after) :
    runWords settings address index registers (word :: rest) =
      runWords settings address (index + 1) after.registers rest := by
  have alone : (liftWord settings (wordAddress address index) word).run registers =
      ⟨after.registers, .ok ()⟩ :=
    Lane.Function.run_append_empty run
  rw [runWords]
  simp only [stepWord, lifted, alone, Except.map]

/-- A function goes on with a block as with its words one after another. -/
theorem leaves_appendAll [FloatArithmetic] (settings : Settings) (address : Address)
    {registers : RegisterFile} :
    ∀ (words : List Word) (index : Nat) {count : Nat} {function : Lane.Function}
      {before : Lane.Progress},
      (liftFrom settings address index words).result = .ok count →
      function.Leaves registers before →
      ∃ after,
        Lane.Function.Leaves (CodeBuilder.appendAll function
          (liftFrom settings address index words).segments) registers after ∧
        runWords settings address index before.registers words =
          .ok ⟨after.registers, .ok ()⟩
  | [], _, _, _, before, _, leaves => ⟨before, leaves, rfl⟩
  | word :: rest, index, count, function, before, accepted, leaves => by
      have lifted := liftWord_of_liftFrom accepted
      rcases runs_of_liftWord lifted before.registers with ⟨middle, run⟩
      rw [liftFrom_cons lifted] at accepted ⊢
      rcases leaves_appendAll settings address rest (index + 1) accepted (leaves.append run) with
        ⟨after, leavesAfter, runRest⟩
      refine ⟨after, leavesAfter, ?_⟩
      rw [runWords_cons lifted run]
      exact runRest

/-- A block that is lifted runs as its words do when each is lifted and run on its own
over the registers that the words before it have left. Lifting it in two parts,
one behind the other, gives the same function, and so does lifting it elsewhere. -/
theorem run_liftBlock [FloatArithmetic] (settings : Settings) (address : Address)
    (words : List Word) (count : Nat)
    (accepted : (liftBlock settings address words).result = .ok count) (name : String)
    (registers : RegisterFile) :
    (∃ after,
      (CodeBuilder.appendAll ({ name := name } : Lane.Function)
        (liftBlock settings address words).segments).run registers = ⟨after, .ok ()⟩ ∧
      runWords settings address 0 registers words = .ok ⟨after, .ok ()⟩) ∧
    (∀ (start : Lane.Function) (first second : List Word) (there elsewhere : Address),
      first ++ second = words →
        (liftBlock settings there first).result = .ok first.length ∧
        (liftBlock settings elsewhere second).result = .ok second.length ∧
        CodeBuilder.appendAll
            (CodeBuilder.appendAll start (liftBlock settings there first).segments)
            (liftBlock settings elsewhere second).segments =
          CodeBuilder.appendAll start (liftBlock settings address words).segments) ∧
    ∀ (start : Lane.Function) (other : Address),
      CodeBuilder.appendAll start (liftBlock settings other words).segments =
        CodeBuilder.appendAll start (liftBlock settings address words).segments := by
  refine ⟨?_, ?_, ?_⟩
  · rcases leaves_appendAll settings address words 0 accepted
      (Lane.Function.leaves_empty name registers) with ⟨after, leaves, run⟩
    exact ⟨after.registers, leaves.run, run⟩
  · rintro start first second there elsewhere rfl
    rcases liftFrom_append settings address second first 0 accepted with
      ⟨acceptedFirst, acceptedSecond, segments⟩
    have firstThere := liftFrom_elsewhere settings address there first 0 0 acceptedFirst
    have secondElsewhere := liftFrom_elsewhere settings address elsewhere second _ 0
      acceptedSecond
    rw [Nat.zero_add] at firstThere secondElsewhere
    refine ⟨firstThere.1, secondElsewhere.1, ?_⟩
    rw [liftBlock, liftBlock, liftBlock, firstThere.2, secondElsewhere.2, segments]
    simp only [CodeBuilder.appendAll, List.foldl_append]
  · intro start other
    rw [liftBlock, liftBlock, (liftFrom_elsewhere settings address other words 0 0 accepted).2]

/-- The words of `vadd.i64 d1, d0, d0` and `vadd.i64 d2, d1, d0`. -/
private def sums : List Word := [0xf2301800, 0xf2312800]

private def three : RegisterFile :=
  RegisterFile.zero.setBank 0 3

theorem run_liftBlock_sums :
    (liftBlock {} 0x1000 sums).result = .ok 2 ∧
    ∃ after,
      (CodeBuilder.appendAll ({ name := "sums" } : Lane.Function)
        (liftBlock {} 0x1000 sums).segments).run three = ⟨after, .ok ()⟩ ∧
      runWords {} 0x1000 0 three sums = .ok ⟨after, .ok ()⟩ ∧
      after.byte 16 = 9 := by
  have accepted : (liftBlock {} 0x1000 sums).result = .ok 2 := by rfl
  rcases run_liftBlock {} 0x1000 sums 2 accepted "sums" three with
    ⟨⟨after, run, runAlone⟩, _, _⟩
  refine ⟨accepted, after, run, runAlone, ?_⟩
  have isAfter : after = (Lane.Function.run (CodeBuilder.appendAll
      ({ name := "sums" } : Lane.Function)
      (liftBlock {} 0x1000 sums).segments) three).registers := by
    rw [run]
  subst isAfter
  decide

end LaneLift
