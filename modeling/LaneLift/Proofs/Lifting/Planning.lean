import LaneLift.Proofs.Lane.Admissible
import LaneLift.Proofs.Lifting.Elementwise
import LaneLift.Proofs.Lifting.Scalar
import LaneLift.Proofs.Lifting.Word

/-!
# What planned code does

The arithmetic of every plan suits the lanes that it is given, and the registers of
decoded operands exist. So the code of every plan runs without an error over any
registers; it writes one register, and what it writes there depends on the registers
that it reads only.
-/

namespace LaneLift.Lifting

open Guest (Layout Mnemonic Operands ScalarPair ScalarTriple VectorImmediate VectorPair
  VectorTriple Word)
open Lane (Code Datum Opcode ScalarType)

def Runs [FloatArithmetic] (code : Code) : Prop :=
  ∀ registers, ∃ after, Code.Reaches ⟨[], registers⟩ code after

/-- The code brings registers to others. Only the bytes that it writes change, and what
they change to depends on the bytes that it reads. -/
structure Transforms [FloatArithmetic] (code : Code) (written : Span) (read : List Span)
    (transform : RegisterFile → RegisterFile) : Prop where
  reaches : ∀ registers, ∃ values,
    Code.Reaches ⟨[], registers⟩ code ⟨values, transform registers⟩
  spares : ∀ registers, RegisterFile.AgreeOutside written (transform registers) registers
  depends : ∀ left right, (∀ span ∈ read, RegisterFile.AgreeOn span left right) →
    RegisterFile.AgreeOn written (transform left) (transform right)

/-! ## Bodies -/

namespace Body

variable [FloatArithmetic]

def Total (body : Body) (type : ScalarType) (arity : Nat) : Prop :=
  ∀ operands : List (BitVec type.width), operands.length = arity →
    ∃ made : BitVec type.width,
      body.evaluate? (operands.map (.scalar type)) = some (.scalar type made)

variable {type : ScalarType} {opcode : Opcode}

theorem total_operand (type : ScalarType) : operand.Total type 1
  | [x], _ => ⟨x, evaluate?_operand (.scalar type x)⟩

theorem total_unary (isUnary : opcode.isUnary = true) (suits : opcode.Suits type) :
    (unary opcode).Total type 1
  | [x], _ => by
      rcases Opcode.exists_unary? isUnary suits x with ⟨made, isMade⟩
      refine ⟨made, ?_⟩
      rw [List.map_singleton, evaluate?_unary, Datum.unary?, isMade, Option.map_some]

theorem total_binary (isBinary : opcode.isBinary = true) (suits : opcode.Suits type) :
    (binary opcode).Total type 2
  | [x, y], _ => by
      rcases Opcode.exists_binary? isBinary suits x y with ⟨made, isMade⟩
      refine ⟨made, ?_⟩
      rw [List.map_cons, List.map_singleton, evaluate?_binary, Datum.binary?, dif_pos rfl,
        isMade, Option.map_some]

theorem total_accumulate {multiply combine : Opcode} (isMultiply : multiply.isBinary = true)
    (multiplySuits : multiply.Suits type) (isCombine : combine.isBinary = true)
    (combineSuits : combine.Suits type) : (accumulate multiply combine).Total type 3
  | [d, x, y], _ => by
      rcases Opcode.exists_binary? isMultiply multiplySuits x y with ⟨product, isProduct⟩
      rcases Opcode.exists_binary? isCombine combineSuits d product with ⟨made, isMade⟩
      refine ⟨made, ?_⟩
      rw [List.map_cons, List.map_cons, List.map_singleton, evaluate?_accumulate, Datum.binary?,
        dif_pos rfl, isProduct, Option.map_some, Option.bind_some, Datum.binary?, dif_pos rfl,
        isMade, Option.map_some]

def output (body : Body) (width : Nat) (arguments : List Datum) : BitVec width :=
  match body.evaluate? arguments with
  | some (.scalar _ pattern) => pattern.setWidth width
  | _ => 0

theorem Total.yields {body : Body} {arity : Nat} (total : body.Total type arity)
    {operands : List (BitVec type.width)} (count : operands.length = arity) (width : Nat) :
    body.Yields (operands.map (.scalar type))
      (body.output width (operands.map (.scalar type))) := by
  rcases total operands count with ⟨made, evaluates⟩
  refine ⟨type, made, evaluates, ?_⟩
  rw [output, evaluates]

inductive Suits (type : ScalarType) : Body → Nat → Prop
  | operand : Suits type operand 1
  | unary {opcode : Opcode} : opcode.isUnary = true → opcode.Suits type →
      Suits type (unary opcode) 1
  | binary {opcode : Opcode} : opcode.isBinary = true → opcode.Suits type →
      Suits type (binary opcode) 2
  | accumulate {multiply combine : Opcode} :
      multiply.isBinary = true → multiply.Suits type →
      combine.isBinary = true → combine.Suits type →
      Suits type (accumulate multiply combine) 3

theorem Suits.total {body : Body} {arity : Nat} : body.Suits type arity → body.Total type arity
  | .operand => total_operand type
  | .unary isUnary suits => total_unary isUnary suits
  | .binary isBinary suits => total_binary isBinary suits
  | .accumulate isMultiply multiplySuits isCombine combineSuits =>
      total_accumulate isMultiply multiplySuits isCombine combineSuits

end Body

/-! ## Vector forms -/

theorem Shape.type_present (shape : Shape) (pattern : BitVec shape.type.width) :
    (shape.reading.present shape.type pattern).type = .scalar shape.operandType := by
  rcases shape with ⟨type, lanes, classes, reading⟩
  cases reading <;> rfl

namespace VectorForm

variable {form : VectorForm}

def Uniform (form : VectorForm) : Prop :=
  form.constants ≠ [] → form.shape.reading ≠ .float

theorem type_inputs (uniform : form.Uniform) (registers : RegisterFile) (index : Nat) :
    ∀ datum ∈ form.inputs registers index, datum.type = .scalar form.shape.operandType := by
  intro datum member
  rcases List.mem_append.mp member with isConstant | isLane
  · rcases List.mem_map.mp isConstant with ⟨constant, constantMember, rfl⟩
    rw [Shape.operandType, if_neg (uniform (List.ne_nil_of_mem constantMember))]
    rfl
  · rcases List.mem_map.mp isLane with ⟨source, _, rfl⟩
    exact form.shape.type_present _

theorem exists_operands (uniform : form.Uniform) (registers : RegisterFile) (index : Nat) :
    ∃ operands : List (BitVec form.shape.operandType.width),
      operands.length = form.constants.length + form.sources.length ∧
      form.inputs registers index = operands.map (.scalar form.shape.operandType) := by
  rcases Lane.exists_scalars _ (type_inputs uniform registers index) with ⟨operands, isInputs⟩
  refine ⟨operands, ?_, isInputs⟩
  have count := congrArg List.length isInputs
  rw [inputs, List.length_append, List.length_map, List.length_map, List.length_map] at count
  exact count.symm

theorem Fits.inputs_eq (fits : form.Fits) {left right : RegisterFile}
    (agree : ∀ span ∈ form.sources.map form.shape.registers.span,
      RegisterFile.AgreeOn span left right) {index : Nat} (inside : index < form.shape.lanes) :
    form.inputs left index = form.inputs right index := by
  have ends : form.shape.type.width / 8 * index + form.shape.type.width / 8 ≤
      form.shape.registers.bytes := by
    rw [fits.bytes_eq, ← Nat.mul_succ]
    exact Nat.mul_le_mul_left _ inside
  rw [inputs, inputs]
  congr 1
  apply List.map_congr_left
  intro source member
  have agreeSource := agree _ (List.mem_map_of_mem member)
  have same : left.number (form.laneOffset source index) form.shape.type.width =
      right.number (form.laneOffset source index) form.shape.type.width := by
    apply agreeSource.number_eq
    · exact Nat.le_add_right _ _
    · rw [laneOffset, Nat.add_assoc]
      exact Nat.add_le_add_left ends _
  rw [same]

theorem Fits.exists_transforms [FloatArithmetic] (fits : form.Fits) (uniform : form.Uniform)
    {body : Body}
    (suits : body.Suits form.shape.operandType (form.constants.length + form.sources.length)) :
    ∃ transform, Transforms (form.emission fun _ => body).code
      (form.shape.registers.span form.destination)
      (form.sources.map form.shape.registers.span) transform := by
  have yields : ∀ registers index, body.Yields (form.inputs registers index)
      (body.output form.shape.type.width (form.inputs registers index)) := by
    intro registers index
    rcases exists_operands uniform registers index with ⟨operands, count, isInputs⟩
    rw [isInputs]
    exact suits.total.yields count form.shape.type.width
  have reaches := fun registers =>
    fits.reaches_emission fun index _ => yields registers index
  choose values after run written spared using reaches
  refine ⟨after, fun registers => ⟨_, run registers⟩,
    fun registers offset outside => spared registers offset (Span.not_covers_iff.mp outside), ?_⟩
  intro left right agree
  apply RegisterFile.agreeOn_of_numbers form.shape.eight_dvd_width fits.bytes_eq
  intro index inside
  have sameInputs := fits.inputs_eq agree inside
  have isLeft := written left index inside
  rw [sameInputs] at isLeft
  exact isLeft.trans (written right index inside).symm

end VectorForm

/-! ## Scalar forms -/

theorem isFloat_floatOfSize (size : Nat) : (ScalarType.floatOfSize size).isFloat = true := by
  rw [ScalarType.floatOfSize]
  split <;> rfl

def scalarClass : ScalarType → RegisterClass
  | .f64 => .double
  | _ => .single

structure ScalarForm.Fits (form : ScalarForm) : Prop where
  float : form.type.isFloat = true
  destination : form.destination < 32
  sources : ∀ source ∈ form.sources, source < 32
  keeps : form.resultType = .scalar form.type

theorem ScalarForm.Fits.exists_transforms [FloatArithmetic] {form : ScalarForm} (fits : form.Fits)
    {body : Body}
    (suits : body.Suits form.type form.sources.length) :
    ∃ transform, Transforms (form.emission body).code
      ((scalarClass form.type).span form.destination)
      (form.sources.map (scalarClass form.type).span) transform := by
  have precision : ∃ format : FloatFormat, form.type = format.scalarType ∧
      scalarClass form.type = format.registers ∧ format.registers.bytes = format.width / 8 := by
    have float := fits.float
    cases type : form.type with
    | f32 => exact ⟨.single, rfl, rfl, rfl⟩
    | f64 => exact ⟨.double, rfl, rfl, rfl⟩
    | _ => simp [type, ScalarType.isFloat, ScalarType.isInteger] at float
  rcases precision with ⟨format, type, registers, bytes⟩
  let inputs (registers : RegisterFile) : List Datum := form.sources.map fun source =>
    .ofPattern format (registers.number (format.registers.offset source) format.width)
  have yields : ∀ registers, body.Yields (inputs registers)
      (body.output format.width (inputs registers)) := by
    intro registers
    have isInputs : inputs registers = (form.sources.map
        (scalarRegister registers form.type)).map (.scalar form.type) := by
      simp only [inputs, ← scalar_scalarRegister type, List.map_map]
      rfl
    rw [isInputs]
    exact suits.total.yields (List.length_map _) format.width
  have reaches := fun registers => form.reaches_number type fits.keeps fits.destination
    fits.sources (yields registers)
  choose values after run written spared using reaches
  rw [registers]
  refine ⟨after, fun registers => ⟨_, run registers⟩, spared, ?_⟩
  intro left right agree
  apply RegisterFile.agreeOn_of_numbers format.eight_dvd_width
    (bytes.trans (Nat.mul_one _).symm)
  intro index inside
  have first : index = 0 := by omega
  have sameInputs : inputs left = inputs right := by
    apply List.map_congr_left
    intro source member
    have agreeSource := agree _ (List.mem_map_of_mem member)
    have same : left.number (format.registers.offset source) format.width =
        right.number (format.registers.offset source) format.width :=
      agreeSource.number_eq (Nat.le_refl _) (Nat.le_of_eq (congrArg _ bytes.symm))
    rw [same]
  have isLeft := written left
  rw [sameInputs] at isLeft
  rw [first]
  exact isLeft.trans (written right).symm

/-! ## Plans -/

inductive Plan.Sound : Plan → Prop
  | vector {form : VectorForm} {body : Body} : form.Fits → form.Uniform →
      body.Suits form.shape.operandType (form.constants.length + form.sources.length) →
      Sound (.vector form body)
  | scalar {form : ScalarForm} {body : Body} : form.Fits →
      body.Suits form.type form.sources.length → Sound (.scalar form body)

namespace Plan

def written : Plan → Span
  | .vector form _ => form.shape.registers.span form.destination
  | .scalar form _ => (scalarClass form.type).span form.destination

def read : Plan → List Span
  | .vector form _ => form.sources.map form.shape.registers.span
  | .scalar form _ => form.sources.map (scalarClass form.type).span

variable {plan : Plan}

theorem Sound.exists_transforms [FloatArithmetic] : plan.Sound →
    ∃ transform, Transforms plan.emission.code plan.written plan.read transform
  | .vector fits uniform suits => fits.exists_transforms uniform suits
  | .scalar fits suits => fits.exists_transforms suits

theorem Sound.result : plan.Sound → plan.emission.result = .ok ()
  | .vector fits _ _ => by rw [emission, VectorForm.emission, fits.placement?]
  | .scalar _ _ => rfl

theorem Sound.runs [FloatArithmetic] (sound : plan.Sound) : Runs plan.emission.code := by
  intro registers
  rcases sound.exists_transforms with ⟨transform, transforms⟩
  rcases transforms.reaches registers with ⟨values, run⟩
  exact ⟨_, run⟩

end Plan

def LaneReading.takes (opcode : Opcode) : LaneReading → Bool
  | .float => opcode.isFloat
  | .signed | .unsigned => opcode.isInteger

namespace VectorTemplate

variable {template : VectorTemplate} {reading : LaneReading}

theorem suits_operandType {opcode : Opcode} (takes : reading.takes opcode = true) :
    opcode.Suits (template.form reading).shape.operandType := by
  cases template <;> cases reading with
  | float => exact .inr ⟨takes, isFloat_floatOfSize _⟩
  | signed | unsigned => exact .inl ⟨takes, rfl⟩

theorem Decoded.sound (decoded : template.Decoded) (reading : LaneReading) {body : Body}
    (suits : body.Suits (template.form reading).shape.operandType template.sources.length) :
    (Plan.vector (template.form reading) body).Sound := by
  have none : (template.form reading).constants = [] := by cases template <;> rfl
  have sources : (template.form reading).sources = template.sources := by cases template <;> rfl
  refine .vector (decoded.fits reading) (fun some => absurd none some) ?_
  rw [none, sources, List.length_nil, Nat.zero_add]
  exact suits

end VectorTemplate

section Plans

variable {word : Word} {mnemonic : Mnemonic} {plan : Plan}

theorem sound_pairPlan? {operands : VectorPair}
    (decodes : Layout.vectorPair.decode word = .vectorPair operands)
    (planned : pairPlan? mnemonic operands = some plan) : plan.Sound := by
  have decoded := VectorTemplate.decoded_unary decodes
  cases mnemonic <;> simp only [pairPlan?, reduceCtorEq] at planned
  all_goals
    split at planned <;> cases planned
    · exact decoded.sound .float (.unary rfl (VectorTemplate.suits_operandType rfl))
    · exact decoded.sound .signed (.unary rfl (VectorTemplate.suits_operandType rfl))

theorem sound_triplePlan? {operands : VectorTriple}
    (decodes : Layout.vectorTriple.decode word = .vectorTriple operands)
    (planned : triplePlan? mnemonic operands = some plan) : plan.Sound := by
  have binary := VectorTemplate.decoded_binary decodes
  have ternary := VectorTemplate.decoded_ternary decodes
  cases mnemonic with
  | vaddI | vsubI | vmulI | vand | vorr | veor =>
      cases planned
      exact binary.sound .unsigned (.binary rfl (VectorTemplate.suits_operandType rfl))
  | vmlaI | vmlsI =>
      cases planned
      exact ternary.sound .unsigned (.accumulate rfl (VectorTemplate.suits_operandType rfl) rfl
        (VectorTemplate.suits_operandType rfl))
  | vaddV | vsubV | vmulV =>
      cases planned
      exact binary.sound .float (.binary rfl (VectorTemplate.suits_operandType rfl))
  | vmlaV | vmlsV =>
      cases planned
      exact ternary.sound .float (.accumulate rfl (VectorTemplate.suits_operandType rfl) rfl
        (VectorTemplate.suits_operandType rfl))
  | vmax | vmin =>
      simp only [triplePlan?] at planned
      split at planned <;> cases planned
      · exact binary.sound .unsigned (.binary rfl (VectorTemplate.suits_operandType rfl))
      · exact binary.sound .signed (.binary rfl (VectorTemplate.suits_operandType rfl))
  | _ => cases planned

theorem fits_immediate {operands : VectorImmediate}
    (destination : operands.destination = word.doubleNumber 12 22) (small : operands.size < 4)
    (registers : operands.registers = word.vectorClass) : operands.form.Fits := by
  have vector : operands.registers = .double ∨ operands.registers = .quad := by
    rw [registers]
    exact word.vectorClass_cases
  have fills : (Shape.ofReading .unsigned operands.size operands.registers).Fills :=
    Shape.fills_ofReading vector small
  exact {
    vector := vector
    fills := fills
    integer := (Shape.isInteger_ofReading :
      (Shape.ofReading .unsigned operands.size operands.registers).reading ≠ .float → _)
    destination := by
      have number := word.doubleNumber_lt 12 22
      rwa [← destination] at number
    sources := by
      intro source member
      cases member }

theorem sound_immediatePlan? {operands : VectorImmediate} (fits : operands.form.Fits)
    (planned : immediatePlan? mnemonic operands = some plan) : plan.Sound := by
  rw [immediatePlan?] at planned
  split at planned
  · cases planned
    refine .vector fits (fun _ isFloat => by cases isFloat) ?_
    split
    · exact .unary rfl (.inl ⟨rfl, rfl⟩)
    · exact .operand
  · cases planned

theorem sound_scalarPairPlan? {operands : ScalarPair}
    (destination : operands.destination < 32) (source : operands.source < 32)
    (planned : scalarPairPlan? mnemonic operands = some plan) : plan.Sound := by
  have float := isFloat_floatOfSize operands.size
  have sources : ∀ register ∈ [operands.source], register < 32 := by
    simpa using source
  cases mnemonic with
  | vabsS | vnegS | vsqrtS =>
      cases planned
      exact .scalar ⟨float, destination, sources, rfl⟩ (.unary rfl (.inr ⟨rfl, float⟩))
  | _ => cases planned

theorem sound_scalarTriplePlan? {operands : ScalarTriple}
    (destination : operands.destination < 32) (left : operands.left < 32)
    (right : operands.right < 32)
    (planned : scalarTriplePlan? mnemonic operands = some plan) : plan.Sound := by
  have float := isFloat_floatOfSize operands.size
  have sources : ∀ register ∈ [operands.left, operands.right], register < 32 := by
    simp [left, right]
  have allSources : ∀ register ∈ [operands.destination, operands.left, operands.right],
      register < 32 := by
    simp [destination, left, right]
  cases mnemonic with
  | vaddS | vsubS | vmulS | vdivS =>
      cases planned
      exact .scalar ⟨float, destination, sources, rfl⟩ (.binary rfl (.inr ⟨rfl, float⟩))
  | vmlaS | vmlsS =>
      cases planned
      exact .scalar ⟨float, destination, allSources, rfl⟩
        (.accumulate rfl (.inr ⟨rfl, float⟩) rfl (.inr ⟨rfl, float⟩))
  | _ => cases planned

theorem sound_of_plan {layout : Layout}
    (planned : plan? mnemonic (layout.decode word) = some plan) : plan.Sound := by
  cases layout with
  | bitfield => cases planned
  | vectorPair =>
      rcases Guest.decode_vectorPair word with ⟨operands, decodes, _⟩
      rw [decodes] at planned
      exact sound_pairPlan? decodes planned
  | vectorTriple =>
      rcases Guest.decode_vectorTriple word with ⟨operands, decodes, _⟩
      rw [decodes] at planned
      exact sound_triplePlan? decodes planned
  | scalarPair =>
      rcases Guest.decode_scalarPair word with ⟨operands, decodes, destination, source, _⟩
      rw [decodes] at planned
      apply sound_scalarPairPlan? _ _ planned
      · exact destination ▸ word.scalarNumber_lt 12 22
      · exact source ▸ word.scalarNumber_lt 0 5
  | scalarTriple =>
      rcases Guest.decode_scalarTriple word with
        ⟨operands, decodes, destination, left, right, _⟩
      rw [decodes] at planned
      apply sound_scalarTriplePlan? _ _ _ planned
      · exact destination ▸ word.scalarNumber_lt 12 22
      · exact left ▸ word.scalarNumber_lt 16 7
      · exact right ▸ word.scalarNumber_lt 0 5
  | vectorImmediate =>
      rcases Guest.decode_vectorImmediate word with
        ⟨operands, decodes, destination, small, registers, _⟩
      rw [decodes] at planned
      exact sound_immediatePlan? (fits_immediate destination small registers) planned

end Plans

end LaneLift.Lifting
