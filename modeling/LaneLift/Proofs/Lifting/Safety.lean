import LaneLift.Proofs.Guest.Checked
import LaneLift.Proofs.Lane.Building
import LaneLift.Proofs.Lifting.Acceptance
import LaneLift.Proofs.Lifting.Typing

/-!
# Safety of lifted code

Lifting never goes wrong, whether or not it ends in an error. Decoding and shaping stay
in the ranges of the machine, every instruction is accepted by the function that it is
given to, and the function runs without an error over any registers.
-/

namespace LaneLift

namespace Lifting

open Guest (Layout Mnemonic Operands Word)

/-! ## Shaping -/

namespace Shape

/-- As `ofReading`, with the number of lanes as the number of bytes shifted down. -/
def ofReading? (reading : LaneReading) (size : Nat) (registers : RegisterClass) :
    Option Shape := do
  let amount := if reading = .float then size % 2 + 2 else size
  let lanes ← shiftRight? (BitVec.ofNat 32 registers.bytes) amount
  some { ofReading reading size registers with lanes := lanes.toNat }

def lane? (shape : Shape) (index position : Nat) : Option Nat :=
  if shape.lane index position < shape.type.lanesPerBank then some (shape.lane index position)
  else none

theorem ofReading?_eq (reading : LaneReading) {size : Nat} (small : size < 32)
    (registers : RegisterClass) :
    ofReading? reading size registers = some (ofReading reading size registers) := by
  have bytes : (BitVec.ofNat 32 registers.bytes).toNat = registers.bytes := by
    cases registers <;> rfl
  have amount : (if reading = .float then size % 2 + 2 else size) < 32 := by
    split <;> omega
  have shifted : (BitVec.ofNat 32 registers.bytes >>>
      (if reading = .float then size % 2 + 2 else size)).toNat =
        (ofReading reading size registers).lanes := by
    rw [BitVec.toNat_ushiftRight, bytes]
    cases reading <;> rfl
  rw [ofReading?, shiftRight?_eq _ amount, Option.bind_eq_bind, Option.bind_some, shifted]

end Shape

end Lifting

namespace Guest

def Operands.size : Operands → Nat
  | .bitfield _ => 0
  | .vectorPair operands => operands.size
  | .vectorTriple operands => operands.size
  | .scalarPair operands => operands.size
  | .scalarTriple operands => operands.size
  | .vectorImmediate operands => operands.size

theorem size_decode_lt (layout : Layout) (word : Word) : (layout.decode word).size < 4 := by
  cases layout with
  | bitfield => exact Nat.zero_lt_succ 3
  | vectorImmediate => exact size_expandImmediate_lt _ _ _
  | vectorPair | vectorTriple | scalarPair | scalarTriple => exact word.field_lt _ 2

theorem bounds_of_decode {layout : Layout} {word : Word} {field : Bitfield}
    (isField : layout.decode word = .bitfield field) : field.msb < 32 ∧ field.lsb < 32 := by
  cases layout with
  | bitfield =>
      cases isField
      exact ⟨word.field_lt 16 5, word.field_lt 7 5⟩
  | _ => cases isField

open Lifting (Shape plan?)

/-- Decoding a word, the masks of its bitfield and the shape of its lanes stay in the
ranges of machine arithmetic, and every lane that is read or written is one of its bank. -/
structure Word.StaysInRange (word : Word) (descriptor : Descriptor) : Prop where
  decodes : descriptor.layout.decode? word = some (descriptor.layout.decode word)
  masks : ∀ field, descriptor.layout.decode word = .bitfield field →
    field.sourceMask? = some field.sourceMask ∧
    field.destinationMask? = some field.destinationMask ∧
    field.widthMask? = some field.widthMask
  shapes : ∀ form body,
    plan? descriptor.mnemonic (descriptor.layout.decode word) = some (.vector form body) →
      Shape.ofReading? form.shape.reading (descriptor.layout.decode word).size
        form.shape.registers = some form.shape
  lanes : ∀ form body,
    plan? descriptor.mnemonic (descriptor.layout.decode word) = some (.vector form body) →
      ∀ register ∈ form.destination :: form.sources, ∃ location,
        form.shape.registers.location? register = some location ∧
        ∀ index < form.shape.lanes, form.shape.lane? index location.position =
          some (form.shape.lane index location.position)

end Guest

namespace Lifting

open Guest (Layout Mnemonic Operands Word)

theorem shape_of_plan {mnemonic : Mnemonic} {operands : Operands} {form : VectorForm}
    {body : Body} (planned : plan? mnemonic operands = some (.vector form body)) :
    form.shape = .ofReading form.shape.reading operands.size form.shape.registers := by
  cases operands with
  | bitfield operands => cases planned
  | vectorPair operands =>
      cases mnemonic <;> simp only [plan?, pairPlan?, reduceCtorEq] at planned
      all_goals split at planned <;> cases planned <;> rfl
  | vectorTriple operands =>
      cases mnemonic with
      | vmax | vmin =>
          simp only [plan?, triplePlan?] at planned
          split at planned <;> cases planned <;> rfl
      | _ => cases planned <;> rfl
  | scalarPair operands => cases mnemonic <;> cases planned
  | scalarTriple operands => cases mnemonic <;> cases planned
  | vectorImmediate operands =>
      simp only [plan?, immediatePlan?] at planned
      split at planned <;> cases planned
      rfl

theorem lane?_eq {form : VectorForm} (fits : form.Fits) {register : Nat} (number : register < 32) :
    ∃ location, form.shape.registers.location? register = some location ∧
      ∀ index < form.shape.lanes, form.shape.lane? index location.position =
        some (form.shape.lane index location.position) := by
  refine ⟨form.shape.registers.locate register,
    congrFun (RegisterClass.location?_eq_locate fits.vector) register, ?_⟩
  intro index inside
  exact if_pos (Shape.lane_lt_lanesPerBank fits.fills inside
    (RegisterClass.locate_inside fits.vector number).2)

theorem staysInRange (word : Word) (descriptor : Guest.Descriptor) :
    word.StaysInRange descriptor where
  decodes := Layout.decode?_eq word descriptor.layout
  masks field isField := by
    rcases Guest.bounds_of_decode isField with ⟨msb, lsb⟩
    exact ⟨Guest.Bitfield.sourceMask?_eq msb, Guest.Bitfield.destinationMask?_eq msb lsb,
      Guest.Bitfield.widthMask?_eq msb⟩
  shapes form body planned := by
    have small := Guest.size_decode_lt descriptor.layout word
    rw [Shape.ofReading?_eq _ (Nat.lt_trans small (by decide)), ← shape_of_plan planned]
  lanes form body planned register member := by
    cases sound_of_plan planned with
    | vector fits _ _ =>
        rcases List.mem_cons.mp member with rfl | isSource
        · exact lane?_eq fits fits.destination
        · exact lane?_eq fits (fits.sources register isSource)

end Lifting

/-! ## Blocks -/

open Guest (Address Word)
open Lane (Code CodeBuilder Datum)

/-- Whatever the lifting of a word leaves behind is admissible. -/
theorem makes_liftWord (settings : Settings) (address : Address) (word : Word) :
    ∃ made, Code.Makes [] (liftWord settings address word).code made := by
  cases lifted : (liftWord settings address word).result with
  | error error =>
      rw [code_eq_nil_of_error lifted]
      exact ⟨[], .nil []⟩
  | ok _ =>
      rcases exists_plan lifted with ⟨row, plan, found, allowed, planned⟩
      rw [(liftWord_of_plan found allowed planned).1]
      exact (Lifting.sound_of_plan planned).makes_emission

theorem makes_liftFrom (settings : Settings) (address : Address) :
    ∀ (words : List Word) (index : Nat),
      ∀ segment ∈ (liftFrom settings address index words).segments,
        ∃ made, Code.Makes [] segment made
  | [], _, segment, member => by cases member
  | word :: rest, index, segment, member => by
      have alone := makes_liftWord settings (wordAddress address index) word
      cases lifted : (liftWord settings (wordAddress address index) word).result with
      | error error =>
          simp only [liftFrom, lifted, List.mem_singleton] at member
          rw [member]
          exact alone
      | ok _ =>
          simp only [liftFrom, lifted] at member
          rcases List.mem_cons.mp member with rfl | behind
          · exact alone
          · exact makes_liftFrom settings address rest (index + 1) segment behind

def Block.function (block : Block) (name : String) : Lane.Function :=
  CodeBuilder.appendAll { name := name } block.segments

/-- Lifting a block never goes wrong, whether or not it ends in an error. Decoding and
shaping stay in their ranges; the function is built of instructions each of which it
accepts where it is given it; banks and lanes exist, and operands are results of earlier
instructions; and the function runs without an error over any registers, making values
of the declared types. -/
theorem liftBlock_safe [FloatArithmetic] (settings : Settings) (address : Address)
    (words : List Word)
    (name : String) :
    let function := (liftBlock settings address words).function name
    (∀ word ∈ words, ∀ row, Guest.lookup? word = some row →
      word.StaysInRange row.descriptor) ∧
    (function = function.code.foldl Lane.Function.build { name := name } ∧
      ∀ before instruction after, function.code = before ++ instruction :: after →
        Lane.Function.Accepts (before.foldl Lane.Function.build { name := name })
          instruction) ∧
    (∀ position instruction, function.instruction? position = some instruction →
      instruction.InBounds ∧
      ∀ operand ∈ instruction.operands, ∃ earlier < position,
        function.result? earlier = some operand) ∧
    ∀ registers, ∃ values after,
      function.evaluate registers = .ok (values, after) ∧
      function.run registers = ⟨after, .ok ()⟩ ∧
      ∀ value, (values value).map Datum.type = function.typeOf? value := by
  intro function
  rcases Lane.Function.exists_makes_appendAll _ (makes_liftFrom settings address words 0)
    (.empty name) with ⟨code, made, makes, isBuilt⟩
  have isFunction : function = code.foldl Lane.Function.build { name := name } := isBuilt
  have isCode : function.code = code := by
    rw [isFunction, Lane.Function.code_foldl_build]
    rfl
  have wellTyped : function.WellTyped := by
    rw [isFunction]
    exact Lane.Function.WellTyped.foldl_build makes (.empty name) (.empty name)
  refine ⟨?_, ⟨?_, ?_⟩, ?_, ?_⟩
  · intro word _ row _
    exact Lifting.staysInRange word row.descriptor
  · rw [isCode]
    exact isFunction
  · intro before instruction after split
    rw [isCode] at split
    rw [split] at makes
    exact Lane.Function.Knows.accepts_foldl_build before makes (.empty name)
  · intro position instruction stands
    rcases Option.map_eq_some_iff.mp stands with ⟨entry, isEntry, rfl⟩
    have typed := wellTyped.typed position entry isEntry
    refine ⟨typed.inBounds, fun operand member => ?_⟩
    rcases typed.exists_type operand member with ⟨type, known⟩
    exact wellTyped.exists_earlier known
  · exact wellTyped.evaluates

/-- A block that ends in an error leaves the code of the words before. -/
example :
    let block := liftBlock {} 0x1000 [0xf2301800, 0]
    block.result = .error (.unknownInstruction 0x1004 0) ∧ (block.function "").size = 6 := by
  decide

end LaneLift
