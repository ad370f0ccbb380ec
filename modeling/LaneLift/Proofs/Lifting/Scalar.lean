import LaneLift.Lifting.Scalar
import LaneLift.Proofs.Lane.Appending
import LaneLift.Proofs.Lane.Float
import LaneLift.Proofs.Lifting.Body
import LaneLift.Proofs.Register.Span

/-!
# Running VFP instructions

A VFP instruction reads one register after another, computes, and writes the
result into the bank of its destination as that bank is then, which is as it was
before the instruction.
-/

namespace LaneLift.Lifting

open Lane (Code Datum Instruction Progress ScalarType)

theorem scalarLocation_inside {type : ScalarType} (float : type.isFloat = true) {register : Nat}
    (number : register < 32) :
    (scalarLocation (.scalar type) register).bank < bankCount ∧
      (scalarLocation (.scalar type) register).position < type.lanesPerBank := by
  cases type with
  | f32 => exact ⟨show register / 4 < 16 by omega, show register % 4 < 4 by omega⟩
  | f64 => exact ⟨show register / 2 < 16 by omega, show register % 2 < 2 by omega⟩
  | _ => cases float

def scalarRegister (registers : RegisterFile) (type : ScalarType) (register : Nat) :
    BitVec type.width :=
  let location := scalarLocation (.scalar type) register
  (registers.image location.bank).lane type.width location.position

theorem reaches_readScalar [FloatArithmetic] {type : ScalarType} (float : type.isFloat = true)
    {register : Nat}
    (number : register < 32) (values : List Datum) (registers : RegisterFile) :
    Code.Reaches ⟨values, registers⟩ (readScalar (.scalar type) register values.length)
      ⟨values ++ [.image (registers.image (scalarLocation (.scalar type) register).bank),
        .scalar type (scalarRegister registers type register)], registers⟩ := by
  rcases scalarLocation_inside float number with ⟨bank, position⟩
  have reads := Instruction.succeeds_getBank values registers bank
  have isRead : (values ++ [Datum.image
      (registers.image (scalarLocation (.scalar type) register).bank)])[values.length]? =
        some (.image (registers.image (scalarLocation (.scalar type) register).bank)) := by
    simp
  have extracts := Instruction.succeeds_extractLane type isRead position registers
  have run := Code.Reaches.cons reads (.single extracts)
  simpa [readScalar, scalarRegister, Progress.apply] using run

theorem reaches_writeScalar [FloatArithmetic] {type own : ScalarType} (float : type.isFloat = true)
    {register value : Nat} (number : register < 32) {values : List Datum}
    {pattern : BitVec own.width} (found : values[value]? = some (.scalar own pattern))
    {bank : Fin bankCount} (isBank : (scalarLocation (.scalar type) register).bank = bank)
    (registers : RegisterFile) :
    ∃ made,
      Code.Reaches ⟨values, registers⟩ (writeScalar (.scalar type) register value values.length)
        ⟨values ++ made, registers.setBank bank ((registers.image bank).setLane
          (scalarLocation (.scalar type) register).position
          (pattern.setWidth type.width))⟩ := by
  rcases scalarLocation_inside float number with ⟨_, position⟩
  have reads := Instruction.succeeds_getBank values registers bank.isLt
  have isRead : (values ++ [Datum.image (registers.image bank)])[values.length]? =
      some (.image (registers.image bank)) := by
    simp
  have stillFound : (values ++ [Datum.image (registers.image bank)])[value]? =
      some (.scalar own pattern) :=
    getElem?_append_of_some found
  have inserts := Instruction.succeeds_insertLane isRead stillFound position registers
  have isInserted : (values ++ [Datum.image (registers.image bank)] ++
      [Datum.image ((registers.image bank).setLane
        (scalarLocation (.scalar type) register).position (pattern.setWidth type.width))])[
          values.length + 1]? = some (.image ((registers.image bank).setLane
            (scalarLocation (.scalar type) register).position
            (pattern.setWidth type.width))) := by
    simp
  have commits := Instruction.succeeds_setBank bank isInserted registers
  have run := Code.Reaches.cons reads (.cons inserts (.single commits))
  refine ⟨[.image (registers.image bank), .image ((registers.image bank).setLane
    (scalarLocation (.scalar type) register).position (pattern.setWidth type.width))], ?_⟩
  simpa [writeScalar, isBank, Progress.apply] using run

namespace ScalarForm

variable [FloatArithmetic]

theorem reaches_reads {type : ScalarType} (float : type.isFloat = true)
    (registers : RegisterFile) :
    ∀ (sources : List Nat) (first : Nat) (values : List Datum), values.length = 2 * first →
      (∀ source ∈ sources, source < 32) →
      ∃ made,
        Code.Reaches ⟨values, registers⟩
          ((sources.zipIdx first).flatMap fun (source, index) =>
            readScalar (.scalar type) source (2 * index))
          ⟨values ++ made, registers⟩ ∧
        made.length = 2 * sources.length ∧
        (List.range' first sources.length).map (fun index => (values ++ made)[2 * index + 1]?) =
          sources.map fun source => some (.scalar type (scalarRegister registers type source))
  | [], first, values, _, _ => by
      refine ⟨[], ?_, rfl, rfl⟩
      rw [List.append_nil]
      exact .nil _
  | source :: rest, first, values, length, numbers => by
      have runRead := reaches_readScalar float (numbers source List.mem_cons_self) values registers
      have lengthNext : (values ++ [Datum.image (registers.image
          (scalarLocation (.scalar type) source).bank),
          .scalar type (scalarRegister registers type source)]).length = 2 * (first + 1) := by
        rw [List.length_append, length]
        rfl
      rcases reaches_reads float registers rest (first + 1) _ lengthNext
        fun other member => numbers other (List.mem_cons_of_mem source member) with
        ⟨made, run, lengthMade, others⟩
      refine ⟨[.image (registers.image (scalarLocation (.scalar type) source).bank),
        .scalar type (scalarRegister registers type source)] ++ made, ?_, ?_, ?_⟩
      · rw [length] at runRead
        simpa using runRead.append run
      · simp [lengthMade]
        omega
      · rw [List.append_assoc] at others
        rw [List.length_cons, List.range'_succ, List.map_cons, List.map_cons, others]
        simp [← length]

/-- A VFP instruction commits the bank of its destination with the destination
replaced by what the body computes from the sources, and nothing else. -/
theorem reaches_emission {form : ScalarForm} {body : Body} (float : form.type.isFloat = true)
    (destination : form.destination < 32) (sources : ∀ source ∈ form.sources, source < 32)
    (keeps : form.resultType = .scalar form.type) {registers : RegisterFile}
    {value : BitVec form.type.width} {bank : Fin bankCount}
    (isBank : (scalarLocation (.scalar form.type) form.destination).bank = bank)
    (yields : body.Yields (form.sources.map fun source =>
      .scalar form.type (scalarRegister registers form.type source)) value) :
    ∃ values,
      Code.Reaches ⟨[], registers⟩ (form.emission body).code
        ⟨values, registers.setBank bank ((registers.image bank).setLane
          (scalarLocation (.scalar form.type) form.destination).position value)⟩ := by
  rcases reaches_reads float registers form.sources 0 [] rfl sources with
    ⟨read, runReads, lengthRead, reads⟩
  rw [List.nil_append] at runReads reads
  rw [← List.range_eq_range'] at reads
  have operands : ((List.range form.sources.length).map fun index => 2 * index + 1).map
      (read[·]?) = (form.sources.map fun source =>
        Datum.scalar form.type (scalarRegister registers form.type source)).map some := by
    rw [List.map_map, List.map_map]
    exact reads
  rcases yields with ⟨own, pattern, evaluates, isValue⟩
  rcases Body.reaches_place operands evaluates registers with ⟨computed, runBody, result⟩
  rw [lengthRead] at runBody result
  rcases reaches_writeScalar float destination result isBank registers with ⟨written, runWrite⟩
  rcases runBody.appends with ⟨all, isAll, lengthAll⟩
  have sameValues : computed = all := List.append_cancel_left isAll
  have lengthComputed : (read ++ computed).length =
      2 * form.sources.length + body.code.valueCount := by
    rw [List.length_append, lengthRead, sameValues, lengthAll, Body.valueCount_place]
  rw [lengthComputed, isValue] at runWrite
  have run := (runReads.append runBody).append runWrite
  refine ⟨read ++ computed ++ written, ?_⟩
  rw [emission, keeps]
  exact run

end ScalarForm

/-! ## Registers of a precision -/

theorem offset_scalarLocation (format : FloatFormat) (register : Nat) :
    format.registers.offset register =
        16 * (scalarLocation (.scalar format.scalarType) register).bank +
          format.width / 8 * (scalarLocation (.scalar format.scalarType) register).position ∧
      format.width * (scalarLocation (.scalar format.scalarType) register).position +
        format.width ≤ 128 := by
  cases format with
  | single =>
      constructor
      · show 4 * register = 16 * (register / 4) + 32 / 8 * (register % 4)
        omega
      · show 32 * (register % 4) + 32 ≤ 128
        omega
  | double =>
      constructor
      · show 8 * register = 16 * (register / 2) + 64 / 8 * (register % 2)
        omega
      · show 64 * (register % 2) + 64 ≤ 128
        omega

theorem Body.yields_ofPattern [FloatArithmetic] {body : Body} {arguments : List Datum}
    {format : FloatFormat}
    {value : BitVec format.width}
    (evaluates : body.evaluate? arguments = some (.ofPattern format value)) :
    body.Yields arguments value := by
  cases format <;> exact ⟨_, _, evaluates, BitVec.setWidth_eq value⟩

section Registers

variable {type : ScalarType} {format : FloatFormat} (isType : type = format.scalarType)

include isType in
theorem exists_yields [FloatArithmetic] {body : Body} {arguments : List Datum}
    {value : BitVec format.width}
    (yields : body.Yields arguments value) :
    ∃ pattern : BitVec type.width,
      Datum.scalar type pattern = .ofPattern format value ∧ body.Yields arguments pattern := by
  subst isType
  cases format <;> exact ⟨value, rfl, yields⟩

include isType in
theorem scalar_scalarRegister (file : RegisterFile) (register : Nat) :
    Datum.scalar type (scalarRegister file type register) =
      .ofPattern format (file.number (format.registers.offset register) format.width) := by
  subst isType
  rcases offset_scalarLocation format register with ⟨place, fits⟩
  rw [place, file.number_eq_lane _ _ _ format.eight_dvd_width fits]
  cases format <;> rfl

include isType in
theorem setLane_scalarLocation (file : RegisterFile) {register : Nat} {bank : Fin bankCount}
    (isBank : (scalarLocation (.scalar type) register).bank = bank)
    {pattern : BitVec type.width} {value : BitVec format.width}
    (isPattern : Datum.scalar type pattern = .ofPattern format value) {after : RegisterFile}
    (isAfter : after = file.setBank bank ((file.image bank).setLane
      (scalarLocation (.scalar type) register).position pattern)) :
    after.number (format.registers.offset register) format.width = value ∧
      RegisterFile.AgreeOutside (format.registers.span register) after file := by
  subst isType
  have isLane : (file.image bank).setLane
      (scalarLocation (.scalar format.scalarType) register).position pattern =
        (file.image bank).setLane
          (scalarLocation (.scalar format.scalarType) register).position value := by
    cases format <;> cases isPattern <;> rfl
  have bytes : format.registers.bytes = format.width / 8 := by cases format <;> rfl
  have positive : 0 < format.width := by cases format <;> decide
  have whole := format.eight_dvd_width
  rcases offset_scalarLocation format register with ⟨place, fits⟩
  rw [RegisterClass.span, place, bytes, isBank, isAfter, isLane]
  exact ⟨file.number_setBank_setLane bank whole positive fits value,
    file.agreeOutside_setBank_setLane bank whole positive value⟩

end Registers

namespace ScalarForm

/-- A VFP instruction leaves in its destination what the body has computed from the
numbers in its sources, and every byte outside of the destination as it was. -/
theorem reaches_number [FloatArithmetic] {form : ScalarForm} {body : Body} {format : FloatFormat}
    (type : form.type = format.scalarType) (keeps : form.resultType = .scalar form.type)
    (destination : form.destination < 32) (sources : ∀ source ∈ form.sources, source < 32)
    {registers : RegisterFile} {value : BitVec format.width}
    (yields : body.Yields (form.sources.map fun source => .ofPattern format
      (registers.number (format.registers.offset source) format.width)) value) :
    ∃ values after,
      Code.Reaches ⟨[], registers⟩ (form.emission body).code ⟨values, after⟩ ∧
      after.number (format.registers.offset form.destination) format.width = value ∧
      RegisterFile.AgreeOutside (format.registers.span form.destination) after registers := by
  have float : form.type.isFloat = true := by
    rw [type]
    cases format <;> rfl
  simp only [← scalar_scalarRegister type] at yields
  rcases exists_yields type yields with ⟨pattern, isPattern, yieldsPattern⟩
  let bank : Fin bankCount := ⟨_, (scalarLocation_inside float destination).1⟩
  have isBank : (scalarLocation (.scalar form.type) form.destination).bank = bank := rfl
  rcases form.reaches_emission float destination sources keeps isBank yieldsPattern with
    ⟨values, run⟩
  exact ⟨values, _, run, setLane_scalarLocation type registers isBank isPattern rfl⟩

end ScalarForm

end LaneLift.Lifting
