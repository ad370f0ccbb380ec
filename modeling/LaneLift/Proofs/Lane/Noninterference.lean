import LaneLift.Proofs.Lane.Appending

/-!
# What a run depends on

Whether an instruction fails depends on which values there are and on their types, never on
what they hold, and the types do not depend on the registers. So every run of a function ends
with the same status, well formed or not. What it commits depends on the banks that the
function reads, and it changes no bank that it does not commit to.
-/

namespace LaneLift.Lane

/-! ## Computations that fail alike -/

inductive Except.Related {ε α β : Type} (related : α → β → Prop) :
    Except ε α → Except ε β → Prop
  | error (error : ε) : Related related (.error error) (.error error)
  | ok {left : α} {right : β} : related left right → Related related (.ok left) (.ok right)

theorem Except.Related.refl {ε α : Type} (action : Except ε α) :
    Except.Related Eq action action := by
  cases action with
  | error error => exact .error error
  | ok value => exact .ok rfl

theorem Except.Related.bind {ε α β γ δ : Type} {first : α → β → Prop} {second : γ → δ → Prop}
    {left : Except ε α} {right : Except ε β} {afterLeft : α → Except ε γ}
    {afterRight : β → Except ε δ} (related : Except.Related first left right)
    (next : ∀ x y, first x y → Except.Related second (afterLeft x) (afterRight y)) :
    Except.Related second (left >>= afterLeft) (right >>= afterRight) := by
  cases related with
  | error error => exact .error error
  | ok related => exact next _ _ related

/-! ## Types of results -/

theorem isSome_integerUnary? (opcode : Opcode) (x y : BitVec 64) :
    (integerUnary? x opcode).isSome = (integerUnary? y opcode).isSome := by
  cases opcode <;> simp only [integerUnary?, Option.isSome_some]

theorem isSome_integerBinary? (opcode : Opcode) (x y u v x' y' u' v' : BitVec 64) :
    (integerBinary? x y u v opcode).isSome = (integerBinary? x' y' u' v' opcode).isSome := by
  cases opcode <;> simp only [integerBinary?, Option.isSome_some]

theorem isSome_floatUnary? [FloatArithmetic] (opcode : Opcode) {format : FloatFormat}
    (x y : BitVec format.width) :
    (floatUnary? format x opcode).isSome = (floatUnary? format y opcode).isSome := by
  cases opcode <;> simp only [floatUnary?, Option.isSome_some]

theorem isSome_floatBinary? [FloatArithmetic] (opcode : Opcode) {format : FloatFormat}
    (x y x' y' : BitVec format.width) :
    (floatBinary? format x y opcode).isSome = (floatBinary? format x' y' opcode).isSome := by
  cases opcode <;> simp only [floatBinary?, Option.isSome_some]

theorem ScalarType.isSome_unary? [FloatArithmetic] (opcode : Opcode) (type : ScalarType)
    (x y : BitVec type.width) :
    (type.unary? opcode x).isSome = (type.unary? opcode y).isSome := by
  cases type with
  | f32 | f64 => exact isSome_floatUnary? opcode _ _
  | i8 | i16 | i32 | i64 =>
      simp only [unary?, Option.isSome_map]
      exact isSome_integerUnary? opcode _ _

theorem ScalarType.isSome_binary? [FloatArithmetic] (opcode : Opcode) (type : ScalarType)
    (x y x' y' : BitVec type.width) :
    (type.binary? opcode x y).isSome = (type.binary? opcode x' y').isSome := by
  cases type with
  | f32 | f64 => exact isSome_floatBinary? opcode _ _ _ _
  | i8 | i16 | i32 | i64 =>
      simp only [binary?, Option.isSome_map]
      exact isSome_integerBinary? opcode _ _ _ _ _ _ _ _

/-! ## Instructions -/

inductive Datum.Alike : Datum → Datum → Prop
  | scalar (type : ScalarType) (left right : BitVec type.width) :
      Alike (.scalar type left) (.scalar type right)
  | image (left right : Image) : Alike (.image left) (.image right)

def Values.Alike (left right : Values) : Prop :=
  ∀ value, Option.Rel Datum.Alike (left value) (right value)

inductive Effect.Alike : Effect → Effect → Prop
  | make {left right : Datum} : left.Alike right → Alike (.make left) (.make right)
  | commit (bank : Fin bankCount) (left right : Image) :
      Alike (.commit bank left) (.commit bank right)

namespace Datum

variable {left right x y : Datum} {type : ScalarType}

theorem Alike.type_eq (alike : left.Alike right) : left.type = right.type := by
  cases alike <;> rfl

theorem rel_scalar {left right : Option (BitVec type.width)}
    (same : left.isSome = right.isSome) :
    Option.Rel Alike (left.map (.scalar type)) (right.map (.scalar type)) := by
  cases left with
  | none =>
      rw [Option.isSome_none, eq_comm, Option.isSome_eq_false_iff,
        Option.isNone_iff_eq_none] at same
      rw [same]
      exact .none
  | some pattern =>
      rcases Option.isSome_iff_exists.mp same.symm with ⟨other, rfl⟩
      exact .some (.scalar type pattern other)

theorem Alike.rel_wide (alike : left.Alike right) (withSign : Prop) [Decidable withSign] :
    Option.Rel (fun _ _ => True) (if withSign then left.signed? else left.unsigned?)
      (if withSign then right.signed? else right.unsigned?) := by
  cases alike with
  | image left right => split <;> exact .none
  | scalar type left right =>
      simp only [signed?, unsigned?]
      cases type.isInteger <;> split <;> constructor
      all_goals trivial

theorem rel_ofBits? (type : ValueType) (x y : BitVec 64) :
    Option.Rel Alike (ofBits? type x) (ofBits? type y) := by
  cases type with
  | scalar type => exact .some (.scalar type _ _)
  | image => exact .none

variable [FloatArithmetic]

theorem rel_unary? (alike : left.Alike right) (opcode : Opcode) :
    Option.Rel Alike (left.unary? opcode) (right.unary? opcode) := by
  cases alike with
  | scalar type left right => exact rel_scalar (type.isSome_unary? opcode left right)
  | image left right => exact .none

theorem rel_binary? (alike : left.Alike right) (others : x.Alike y) (opcode : Opcode) :
    Option.Rel Alike (left.binary? opcode x) (right.binary? opcode y) := by
  cases alike with
  | image left right => exact .none
  | scalar type left right =>
      cases others with
      | image x y => exact .none
      | scalar otherType x y =>
          rw [binary?, binary?]
          by_cases same : otherType = type
          · subst same
            rw [dif_pos rfl, dif_pos rfl]
            exact rel_scalar (ScalarType.isSome_binary? opcode _ _ _ _ _)
          · rw [dif_neg same, dif_neg same]
            exact .none

end Datum

section Operands

variable {position : Nat} {opcode : Opcode}

theorem related_operand {left right : Values} (alike : left.Alike right) (value : Nat) :
    Except.Related Datum.Alike (operand left value) (operand right value) := by
  have same := alike value
  rw [operand, operand]
  generalize left value = x, right value = y at same
  cases same with
  | none => exact .error _
  | some same => exact .ok same

theorem related_imageOperand {left right : Datum} (alike : left.Alike right) :
    Except.Related (fun _ _ => True) (imageOperand position opcode left)
      (imageOperand position opcode right) := by
  cases alike with
  | scalar type left right => exact .error _
  | image left right => exact .ok trivial

theorem related_makeOr {type : ValueType} {left right : Option Datum}
    (alike : Option.Rel Datum.Alike left right) :
    Except.Related Effect.Alike (makeOr position opcode type left)
      (makeOr position opcode type right) := by
  cases alike with
  | none => exact .error _
  | some alike => exact .ok (.make alike)

end Operands

namespace Instruction

variable [FloatArithmetic]

/-- An instruction fails alike, or has effects alike, over any registers. -/
theorem related_effect {left right : Values} (alike : left.Alike right) (position : Nat)
    (registers others : RegisterFile) (instruction : Instruction) :
    Except.Related Effect.Alike (instruction.effect position left registers)
      (instruction.effect position right others) := by
  cases instruction with
  | getBank bank =>
      simp only [effect]
      by_cases inside : bank < bankCount
      · rw [registers.bank?_eq_image inside, others.bank?_eq_image inside]
        exact .ok (.make (.image _ _))
      · have outside : ∀ file : RegisterFile, file.bank? bank = none := by
          intro file
          simp [RegisterFile.bank?, inside]
        rw [outside registers, outside others]
        exact .error _
  | setBank bank image =>
      apply (related_operand alike image).bind
      intro x y same
      apply (related_imageOperand same).bind
      intro content other _
      by_cases inside : bank < bankCount
      · rw [dif_pos inside, dif_pos inside]
        exact .ok (.commit _ _ _)
      · rw [dif_neg inside, dif_neg inside]
        exact .error _
  | extractLane type image lane =>
      apply (related_operand alike image).bind
      intro x y same
      apply (related_imageOperand same).bind
      intro content other _
      apply (Except.Related.refl _).bind
      rintro scalar _ rfl
      exact .ok (.make (.scalar _ _ _))
  | insertLane type image value lane =>
      apply (related_operand alike image).bind
      intro x y same
      apply (related_imageOperand same).bind
      intro content other _
      apply (related_operand alike value).bind
      intro inserted otherInserted sameInserted
      apply (Except.Related.refl _).bind
      rintro scalar _ rfl
      cases sameInserted with
      | scalar type left right => exact .ok (.make (.image _ _))
      | image left right => exact .error _
  | iconst type immediate => exact related_makeOr (Datum.rel_ofBits? type _ _)
  | f32const pattern => exact .ok (.make (.scalar _ _ _))
  | f64const pattern => exact .ok (.make (.scalar _ _ _))
  | extend opcode type argument =>
      rw [effect_extend, effect_extend]
      apply (related_operand alike argument).bind
      intro x y same
      rw [same.type_eq]
      have wide := same.rel_wide (opcode = .sextend)
      generalize (if opcode = .sextend then x.signed? else x.unsigned?) = bits,
        (if opcode = .sextend then y.signed? else y.unsigned?) = otherBits at wide
      cases wide with
      | none => exact .error _
      | some _ => exact related_makeOr (Datum.rel_ofBits? type _ _)
  | unary opcode argument =>
      apply (related_operand alike argument).bind
      intro x y same
      rw [same.type_eq]
      exact related_makeOr (Datum.rel_unary? same _)
  | binary opcode first second =>
      apply (related_operand alike first).bind
      intro x y same
      apply (related_operand alike second).bind
      intro z w sameSecond
      rw [same.type_eq, sameSecond.type_eq]
      by_cases types : y.type = w.type
      · rw [if_pos types, if_pos types]
        exact related_makeOr (Datum.rel_binary? same sameSecond _)
      · rw [if_neg types, if_neg types]
        exact .error _

theorem effect_congr {registers others : RegisterFile} {instruction : Instruction}
    (same : ∀ bank, instruction = .getBank bank → registers.bank? bank = others.bank? bank)
    (position : Nat) (values : Values) :
    instruction.effect position values registers = instruction.effect position values others := by
  cases instruction with
  | getBank bank => rw [effect, effect, same bank rfl]
  | _ => rfl

theorem eq_setBank_of_commit {instruction : Instruction} {position : Nat} {values : Values}
    {registers : RegisterFile} {bank : Fin bankCount} {content : Image}
    (succeeds : instruction.effect position values registers = .ok (.commit bank content)) :
    ∃ image, instruction = .setBank bank image := by
  have makes := makesValue_of_commit succeeds
  cases instruction with
  | setBank named image =>
      simp only [effect, Except.bind_eq_ok] at succeeds
      rcases succeeds with ⟨_, _, _, _, commit⟩
      by_cases inside : named < bankCount
      · simp only [inside, dif_pos, Except.ok.injEq, Effect.commit.injEq] at commit
        exact ⟨image, congrArg (Instruction.setBank · image) (congrArg Fin.val commit.1)⟩
      · simp [inside] at commit
  | _ => cases makes

end Instruction

/-! ## Runs -/

theorem Values.Alike.define {left right : Values} (alike : left.Alike right)
    {x y : Datum} (same : x.Alike y) (result : Option Nat) :
    (left.define result x).Alike (right.define result y) := by
  cases result with
  | none => exact alike
  | some made =>
      intro value
      simp only [Values.define]
      split
      · exact .some same
      · exact alike value

theorem status_runEntries [FloatArithmetic] (entries : List Entry) (position : Nat)
    {left right : Values}
    (registers others : RegisterFile) (alike : left.Alike right) :
    (runEntries position left registers entries).status =
      (runEntries position right others entries).status := by
  induction entries generalizing position left right registers others with
  | nil => rfl
  | cons entry rest induction =>
      have related := entry.instruction.related_effect alike position registers others
      rw [runEntries, runEntries]
      generalize entry.instruction.effect position left registers = effect,
        entry.instruction.effect position right others = otherEffect at related
      cases related with
      | error error => rfl
      | ok same =>
          cases same with
          | make same => exact induction _ registers others (alike.define same _)
          | commit bank content other => exact induction _ _ _ alike

def CommitsTo [FloatArithmetic] (position : Nat) (values : Values) (registers : RegisterFile)
    (entries : List Entry) (bank : Nat) : Prop :=
  ∃ before entry after image, entries = before ++ entry :: after ∧
    entry.instruction = .setBank bank image ∧
    (runEntries position values registers (before ++ [entry])).status = .ok ()

section Commits

variable [FloatArithmetic] {position : Nat} {values : Values} {registers : RegisterFile}
    {entry : Entry}
  {rest : List Entry} {bank : Nat}

theorem not_commitsTo_cons_of_error {error : RunError}
    (fails : entry.instruction.effect position values registers = .error error) :
    ¬CommitsTo position values registers (entry :: rest) bank := by
  rintro ⟨before, committing, after, image, listed, _, status⟩
  cases before with
  | nil =>
      cases listed
      rw [List.nil_append, runEntries, fails] at status
      cases status
  | cons first before =>
      cases listed
      rw [List.cons_append, runEntries, fails] at status
      cases status

theorem commitsTo_cons_of_make {datum : Datum}
    (made : entry.instruction.effect position values registers = .ok (.make datum)) :
    CommitsTo position values registers (entry :: rest) bank ↔
      CommitsTo (position + 1) (values.define entry.result datum) registers rest bank := by
  constructor
  · rintro ⟨before, committing, after, image, listed, commits, status⟩
    cases before with
    | nil =>
        cases listed
        have makes := Instruction.makesValue_of_make made
        rw [commits] at makes
        cases makes
    | cons first before =>
        cases listed
        rw [List.cons_append, runEntries, made] at status
        exact ⟨before, committing, after, image, rfl, commits, status⟩
  · rintro ⟨before, committing, after, image, rfl, commits, status⟩
    refine ⟨entry :: before, committing, after, image, rfl, commits, ?_⟩
    rw [List.cons_append, runEntries, made]
    exact status

theorem commitsTo_cons_of_commit {named : Fin bankCount} {content : Image}
    (committed : entry.instruction.effect position values registers =
      .ok (.commit named content)) :
    CommitsTo position values registers (entry :: rest) bank ↔
      named = bank ∨
        CommitsTo (position + 1) values (registers.setBank named content) rest bank := by
  rcases Instruction.eq_setBank_of_commit committed with ⟨source, isSetBank⟩
  constructor
  · rintro ⟨before, committing, after, image, listed, commits, status⟩
    cases before with
    | nil =>
        cases listed
        rw [isSetBank] at commits
        cases commits
        exact .inl rfl
    | cons first before =>
        cases listed
        rw [List.cons_append, runEntries, committed] at status
        exact .inr ⟨before, committing, after, image, rfl, commits, status⟩
  · rintro (rfl | ⟨before, committing, after, image, rfl, commits, status⟩)
    · refine ⟨[], entry, rest, source, rfl, isSetBank, ?_⟩
      rw [List.nil_append, runEntries, committed]
      rfl
    · refine ⟨entry :: before, committing, after, image, rfl, commits, ?_⟩
      rw [List.cons_append, runEntries, committed]
      exact status

end Commits

theorem bank?_runEntries_of_not_commitsTo [FloatArithmetic] {bank : Nat} (entries : List Entry)
    (position : Nat)
    (values : Values) (registers : RegisterFile)
    (spared : ¬CommitsTo position values registers entries bank) :
    (runEntries position values registers entries).registers.bank? bank =
      registers.bank? bank := by
  induction entries generalizing position values registers with
  | nil => rfl
  | cons entry rest induction =>
      rw [runEntries]
      cases succeeds : entry.instruction.effect position values registers with
      | error error => rfl
      | ok effect =>
          cases effect with
          | make datum =>
              rw [commitsTo_cons_of_make succeeds] at spared
              exact induction _ _ _ spared
          | commit named content =>
              rw [commitsTo_cons_of_commit succeeds, not_or] at spared
              have kept := induction _ _ _ spared.2
              rwa [RegisterFile.bank?_setBank, if_neg spared.1] at kept

theorem bank?_setBank_congr {registers others : RegisterFile} {named : Fin bankCount} {bank : Nat}
    (agree : named = bank ∨ registers.bank? bank = others.bank? bank) (content : Image) :
    (registers.setBank named content).bank? bank = (others.setBank named content).bank? bank := by
  rw [RegisterFile.bank?_setBank, RegisterFile.bank?_setBank]
  by_cases written : named = bank
  · rw [if_pos written, if_pos written]
  · rw [if_neg written, if_neg written]
    exact agree.resolve_left written

/-- Runs over registers that agree on the banks that are read agree on the banks that are
committed to, and on those where they began alike. -/
theorem bank?_runEntries_congr [FloatArithmetic] {bank : Nat} (entries : List Entry)
    (position : Nat)
    (values : Values) (registers others : RegisterFile)
    (reads : ∀ entry ∈ entries, ∀ read, entry.instruction = .getBank read →
      registers.bank? read = others.bank? read)
    (agree : registers.bank? bank = others.bank? bank ∨
      CommitsTo position values registers entries bank) :
    (runEntries position values registers entries).registers.bank? bank =
      (runEntries position values others entries).registers.bank? bank := by
  induction entries generalizing position values registers others with
  | nil =>
      rcases agree with same | ⟨before, _, _, _, listed, _⟩
      · exact same
      · simp at listed
  | cons entry rest induction =>
      rw [List.forall_mem_cons] at reads
      rw [runEntries, runEntries, ← Instruction.effect_congr reads.1 position values]
      cases succeeds : entry.instruction.effect position values registers with
      | error error => exact agree.resolve_right (not_commitsTo_cons_of_error succeeds)
      | ok effect =>
          cases effect with
          | make datum =>
              rw [commitsTo_cons_of_make succeeds] at agree
              exact induction _ _ registers others reads.2 agree
          | commit named content =>
              rw [commitsTo_cons_of_commit succeeds, or_left_comm, ← or_assoc] at agree
              apply induction
              · exact fun later member read isRead =>
                  bank?_setBank_congr (.inr (reads.2 later member read isRead)) content
              · exact agree.imp_left fun either => bank?_setBank_congr either content

namespace Function

def CommitsTo [FloatArithmetic] (function : Function) (registers : RegisterFile) (bank : Nat)
    : Prop :=
  Lane.CommitsTo 0 Values.empty registers function.entries.toList bank

/-- Runs of a function end with the same status, whatever the registers hold, and commit to the
same banks. A bank that is not committed to keeps its content. What is committed depends on the
banks that the function reads only. -/
theorem run_noninterference [FloatArithmetic] (function : Function) (left right : RegisterFile) :
    (function.run left).status = (function.run right).status ∧
    (∀ bank, function.CommitsTo left bank ↔ function.CommitsTo right bank) ∧
    (∀ bank, ¬function.CommitsTo left bank →
      (function.run left).registers.bank? bank = left.bank? bank) ∧
    ((∀ bank, .getBank bank ∈ function.code → left.bank? bank = right.bank? bank) →
      ∀ bank, function.CommitsTo left bank →
        (function.run left).registers.bank? bank = (function.run right).registers.bank? bank) := by
  have empty : Values.empty.Alike Values.empty := fun _ => .none
  refine ⟨status_runEntries _ 0 left right empty, ?_, ?_, ?_⟩
  · intro bank
    have sameStatus := fun entries => status_runEntries entries 0 left right empty
    simp only [CommitsTo, Lane.CommitsTo, sameStatus]
  · intro bank
    exact bank?_runEntries_of_not_commitsTo _ 0 Values.empty left
  · intro reads bank commits
    apply bank?_runEntries_congr _ 0 Values.empty left right _ (.inr commits)
    intro entry member read isRead
    apply reads
    rw [code, ← isRead]
    exact List.mem_map_of_mem member

private def failing : Function :=
  let copied := (({} : Function).push (.getBank 1) (some .image)).push (.setBank 2 0) none
  let stopped := (copied.push (.f32const 0) (some (.scalar .f32))).push (.unary .bnot 1) none
  stopped.push (.setBank 3 0) none

private def copiedOnly : RegisterFile :=
  RegisterFile.zero.setBank 1 5

private def copiedAmongOthers : RegisterFile :=
  ((RegisterFile.zero.setBank 1 5).setBank 2 6).setBank 3 7

theorem run_noninterference_failing :
    (∀ bank, .getBank bank ∈ failing.code →
      copiedOnly.bank? bank = copiedAmongOthers.bank? bank) ∧
    failing.CommitsTo copiedOnly 2 ∧ ¬failing.CommitsTo copiedOnly 3 ∧
    (failing.run copiedOnly).status = .error (.invalidType 3 .bnot (.scalar .f32)) ∧
    (failing.run copiedAmongOthers).status = .error (.invalidType 3 .bnot (.scalar .f32)) ∧
    (failing.run copiedOnly).registers.bank? 3 = some 0 ∧
    (failing.run copiedAmongOthers).registers.bank? 2 = some 5 := by
  have reads : ∀ bank, .getBank bank ∈ failing.code →
      copiedOnly.bank? bank = copiedAmongOthers.bank? bank := by
    intro bank member
    have isRead : bank = 1 := by
      simpa [failing, code, push] using member
    rw [isRead]
    decide
  have commits : failing.CommitsTo copiedOnly 2 :=
    (commitsTo_cons_of_make rfl).mpr ((commitsTo_cons_of_commit rfl).mpr (.inl rfl))
  have spares : ¬failing.CommitsTo copiedOnly 3 := by
    intro commits
    rcases (commitsTo_cons_of_commit rfl).mp ((commitsTo_cons_of_make rfl).mp commits) with
      other | later
    · cases other
    · exact not_commitsTo_cons_of_error rfl ((commitsTo_cons_of_make rfl).mp later)
  have status : (failing.run copiedOnly).status =
      .error (.invalidType 3 .bnot (.scalar .f32)) := by rfl
  rcases run_noninterference failing copiedOnly copiedAmongOthers with
    ⟨sameStatus, _, kept, agree⟩
  refine ⟨reads, commits, spares, status, sameStatus ▸ status, kept 3 spares, ?_⟩
  rw [← agree reads 2 commits]
  rfl

end Function

end LaneLift.Lane
