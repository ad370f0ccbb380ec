import LaneLift.Proofs.Lifting.Planning
import Mathlib.Data.List.Basic

/-!
# Types of emitted code

The code of a sound plan is admissible: it is followed piece by piece as when it is run,
but with the types of the values in place of the values.
-/

namespace LaneLift.Lifting

open Lane (Code Instruction ScalarType ValueType)

/-! ## Bodies -/

theorem Body.Suits.makes {body : Body} {type : ScalarType} {arity : Nat}
    (suits : body.Suits type arity) {types : List ValueType} {operands : List Nat}
    (count : operands.length = arity)
    (found : ∀ operand ∈ operands, types[operand]? = some (.scalar type)) :
    ∃ made, Code.Makes types (body.place operands types.length) made ∧
      (types ++ made)[body.placedResult operands types.length]? = some (.scalar type) := by
  cases suits with
  | operand =>
      rcases List.length_eq_one_iff.mp count with ⟨x, rfl⟩
      refine ⟨[], .nil types, ?_⟩
      rw [List.append_nil]
      exact found x List.mem_cons_self
  | @unary opcode isUnary suits =>
      rcases List.length_eq_one_iff.mp count with ⟨x, rfl⟩
      have foundX := found x List.mem_cons_self
      have makes : Code.Makes types [.unary opcode x] [.scalar type] := by
        have makes := Code.Makes.single (.unary isUnary foundX suits)
        rwa [Instruction.resultType?, foundX] at makes
      exact ⟨[.scalar type], makes, by simp [placedResult, outside, Body.unary]⟩
  | @binary opcode isBinary suits =>
      rcases List.length_eq_two.mp count with ⟨x, y, rfl⟩
      have foundX := found x (by simp)
      have makes : Code.Makes types [.binary opcode x y] [.scalar type] := by
        have makes := Code.Makes.single (.binary isBinary foundX (found y (by simp)) suits)
        rwa [Instruction.resultType?, foundX] at makes
      exact ⟨[.scalar type], makes, by simp [placedResult, outside, Body.binary]⟩
  | @accumulate multiply combine isMultiply multiplySuits isCombine combineSuits =>
      rcases List.length_eq_three.mp count with ⟨d, x, y, rfl⟩
      have foundD := found d (by simp)
      have foundX := found x (by simp)
      have multiplies : Code.Makes types [.binary multiply x y] [.scalar type] := by
        have makes := Code.Makes.single
          (.binary isMultiply foundX (found y (by simp)) multiplySuits)
        rwa [Instruction.resultType?, foundX] at makes
      have stillD : (types ++ [.scalar type])[d]? = some (.scalar type) :=
        getElem?_append_of_some foundD
      have product : (types ++ [.scalar type])[types.length]? = some (.scalar type) := by simp
      have combines : Code.Makes (types ++ [.scalar type]) [.binary combine d types.length]
          [.scalar type] := by
        have makes := Code.Makes.single (.binary isCombine stillD product combineSuits)
        rwa [Instruction.resultType?, stillD] at makes
      exact ⟨[.scalar type, .scalar type], multiplies.append combines,
        by simp [placedResult, outside, Body.accumulate]⟩

theorem Body.Suits.resultType? {body : Body} {type : ScalarType} {arity : Nat}
    (suits : body.Suits type arity) :
    body.resultType? Instruction.resultType? (List.replicate arity (.scalar type)) =
      some (.scalar type) := by
  cases suits <;> rfl

/-! ## Vector forms -/

theorem width_lt {type : ScalarType} (integer : type.isInteger = true) (narrow : type ≠ .i64) :
    type.width < ScalarType.width .i64 := by
  cases type with
  | i64 => exact absurd rfl narrow
  | f32 | f64 => cases integer
  | _ => decide

namespace Shape

variable {shape : Shape} {types : List ValueType}

theorem makes_read (integer : shape.reading ≠ .float → shape.type.isInteger = true)
    {image lane : Nat} (found : types[image]? = some .image)
    (inside : lane < shape.type.lanesPerBank) :
    ∃ made, Code.Makes types (shape.read image lane types.length) made ∧
      made.length = shape.valuesPerRead ∧
      (types ++ made)[types.length + (shape.valuesPerRead - 1)]? =
        some (.scalar shape.operandType) := by
  have extracts : Code.Makes types [.extractLane (.scalar shape.type) image lane]
      [.scalar shape.type] :=
    .single (.extractLane found inside)
  cases wide : shape.widens with
  | false =>
      have same : shape.operandType = shape.type := by
        rw [operandType]
        by_cases float : shape.reading = .float
        · rw [if_pos float]
        · have widest : shape.type = .i64 := by simpa [widens, float] using wide
          rw [if_neg float, widest]
      refine ⟨[.scalar shape.type], ?_, ?_, ?_⟩
      · simpa [read, wide] using extracts
      · simp [valuesPerRead, wide]
      · simp [valuesPerRead, wide, same]
  | true =>
      rcases (by simpa [widens] using wide : shape.reading ≠ .float ∧ shape.type ≠ .i64) with
        ⟨notFloat, narrow⟩
      have isInteger := integer notFloat
      have narrower := width_lt isInteger narrow
      have extracted : (types ++ [.scalar shape.type])[types.length]? =
          some (.scalar shape.type) := by
        simp
      have extends' : Code.Makes (types ++ [.scalar shape.type])
          [.extend (if shape.reading = .signed then .sextend else .uextend) (.scalar .i64)
            types.length] [.scalar .i64] := by
        refine .single (.extend ?_ extracted isInteger rfl narrower)
        split
        · exact .inl rfl
        · exact .inr rfl
      refine ⟨[.scalar shape.type, .scalar .i64], ?_, ?_, ?_⟩
      · simpa [read, wide] using extracts.append extends'
      · simp [valuesPerRead, wide]
      · simp [valuesPerRead, wide, operandType, notFloat]

end Shape

namespace VectorForm

structure Knows (form : VectorForm) (placement : Placement) (types : List ValueType) : Prop where
  constants : ∀ value < form.constants.length, types[value]? = some (.scalar .i64)
  images : ∀ source ∈ placement.sources,
    types[form.imageOf placement source.bank]? = some .image

variable {form : VectorForm} {placement : Placement} {types : List ValueType}

theorem Knows.append (knows : form.Knows placement types) (made : List ValueType) :
    form.Knows placement (types ++ made) where
  constants value inside := getElem?_append_of_some (knows.constants value inside)
  images source member := getElem?_append_of_some (knows.images source member)

structure LaneInside (form : VectorForm) (placement : Placement) (index : Nat) : Prop where
  readable : ∀ source ∈ placement.sources,
    form.shape.lane index source.position < form.shape.type.lanesPerBank
  writable : form.shape.lane index placement.destination.position < form.shape.type.lanesPerBank

theorem makes_reads (index next : Nat)
    (integer : form.shape.reading ≠ .float → form.shape.type.isInteger = true) :
    ∀ (sources : List Location) (first : Nat) (types : List ValueType),
      types.length = next + form.shape.valuesPerRead * first →
      (∀ source ∈ sources,
        types[form.imageOf placement source.bank]? = some .image ∧
          form.shape.lane index source.position < form.shape.type.lanesPerBank) →
      ∃ made,
        Code.Makes types
          ((sources.zipIdx first).flatMap fun (source, count) =>
            form.shape.read (form.imageOf placement source.bank)
              (form.shape.lane index source.position)
              (next + form.shape.valuesPerRead * count)) made ∧
        made.length = form.shape.valuesPerRead * sources.length ∧
        ∀ count, first ≤ count → count < first + sources.length →
          (types ++ made)[next + form.shape.valuesPerRead * count +
            (form.shape.valuesPerRead - 1)]? = some (.scalar form.shape.operandType)
  | [], first, types, _, _ => ⟨[], .nil types, by simp, by simp; omega⟩
  | source :: rest, first, types, length, readable => by
      rcases readable source List.mem_cons_self with ⟨found, inside⟩
      rcases Shape.makes_read integer found inside with ⟨read, makesRead, lengthRead, presented⟩
      have lengthNext : (types ++ read).length =
          next + form.shape.valuesPerRead * (first + 1) := by
        rw [List.length_append, lengthRead, length, Nat.mul_succ, Nat.add_assoc]
      have readableRest : ∀ source ∈ rest,
          (types ++ read)[form.imageOf placement source.bank]? = some .image ∧
            form.shape.lane index source.position < form.shape.type.lanesPerBank := by
        intro other member
        rcases readable other (List.mem_cons_of_mem source member) with ⟨found, inside⟩
        exact ⟨getElem?_append_of_some found, inside⟩
      rcases makes_reads index next integer rest (first + 1) (types ++ read) lengthNext
        readableRest with ⟨made, makes, lengthMade, others⟩
      refine ⟨read ++ made, ?_, ?_, ?_⟩
      · rw [length] at makesRead
        simpa using makesRead.append makes
      · rw [List.length_append, lengthRead, lengthMade, List.length_cons, Nat.mul_succ,
          Nat.add_comm]
      · intro count starts ends
        rw [List.length_cons] at ends
        rw [← List.append_assoc]
        rcases Nat.eq_or_lt_of_le starts with rfl | later
        · rw [← length]
          exact getElem?_append_of_some presented
        · exact others count later (by omega)

theorem makes_laneCode {body : Body} {index image : Nat}
    (integer : form.shape.reading ≠ .float → form.shape.type.isInteger = true)
    (uniform : form.Uniform) (placed : placement.sources.length = form.sources.length)
    (suits : body.Suits form.shape.operandType (form.constants.length + form.sources.length))
    (insideBank : form.LaneInside placement index) (knows : form.Knows placement types)
    (isImage : types[image]? = some .image) :
    ∃ made, Code.Makes types (form.laneCode placement body index types.length image)
      (made ++ [.image]) := by
  have readable : ∀ source ∈ placement.sources,
      types[form.imageOf placement source.bank]? = some .image ∧
        form.shape.lane index source.position < form.shape.type.lanesPerBank :=
    fun source member => ⟨knows.images source member, insideBank.readable source member⟩
  rcases makes_reads index types.length integer placement.sources 0 types (by simp) readable with
    ⟨read, makesReads, lengthRead, reads⟩
  have start : (types ++ read).length =
      types.length + form.shape.valuesPerRead * placement.sources.length := by
    rw [List.length_append, lengthRead]
  have operands : ∀ operand ∈ List.range form.constants.length ++
      (List.range placement.sources.length).map (fun count =>
        types.length + form.shape.valuesPerRead * count + (form.shape.valuesPerRead - 1)),
      (types ++ read)[operand]? = some (.scalar form.shape.operandType) := by
    intro operand member
    rcases List.mem_append.mp member with isConstant | isRead
    · have inside := List.mem_range.mp isConstant
      have some : form.constants ≠ [] := List.ne_nil_of_length_pos (by omega)
      rw [Shape.operandType, if_neg (uniform some)]
      exact getElem?_append_of_some (knows.constants operand inside)
    · rcases List.mem_map.mp isRead with ⟨count, countMember, rfl⟩
      exact reads count (Nat.zero_le count) (by simpa using countMember)
  have count : (List.range form.constants.length ++
      (List.range placement.sources.length).map fun count => types.length +
        form.shape.valuesPerRead * count + (form.shape.valuesPerRead - 1)).length =
          form.constants.length + form.sources.length := by
    simp [placed]
  rcases suits.makes count operands with ⟨computed, makesBody, result⟩
  rw [start] at makesBody result
  have kind : form.shape.operandType = form.shape.type ∨
      form.shape.operandType.isInteger = true ∧ form.shape.type.isInteger = true := by
    rw [Shape.operandType]
    by_cases float : form.shape.reading = .float
    · rw [if_pos float]
      exact .inl rfl
    · rw [if_neg float]
      exact .inr ⟨rfl, integer float⟩
  have stillImage : (types ++ read ++ computed)[image]? = some .image :=
    getElem?_append_of_some (getElem?_append_of_some isImage)
  have inserts := Code.Makes.single (.insertLane stillImage result insideBank.writable kind)
  rw [List.append_assoc types] at inserts
  exact ⟨read ++ computed, (makesReads.append makesBody).append inserts⟩

theorem makes_lanesCode {body : Body}
    (integer : form.shape.reading ≠ .float → form.shape.type.isInteger = true)
    (uniform : form.Uniform) (placed : placement.sources.length = form.sources.length)
    (suits : body.Suits form.shape.operandType (form.constants.length + form.sources.length))
    (bank : placement.destination.bank < bankCount) :
    ∀ (remaining : List Nat) (types : List ValueType) (image : Nat),
      (∀ index ∈ remaining, form.LaneInside placement index) →
      form.Knows placement types →
      types[image]? = some .image →
      ∃ made, Code.Makes types
        (form.lanesCode placement (fun _ => body) remaining types.length image) made
  | [], _, image, _, _, isImage => ⟨_, .single (.setBank bank isImage)⟩
  | index :: remaining, types, image, insideBanks, knows, isImage => by
      rcases makes_laneCode integer uniform placed suits (insideBanks index List.mem_cons_self)
        knows isImage with ⟨made, makesLane⟩
      -- The inserted image is the last value that the code of the lane makes.
      have lengthLane := makesLane.length
      rw [List.length_append, List.length_singleton] at lengthLane
      have isInserted : (types ++ (made ++ [.image]))[types.length + made.length]? =
          some ValueType.image := by
        simp
      rcases makes_lanesCode integer uniform placed suits bank remaining _ _
        (fun other member => insideBanks other (List.mem_cons_of_mem index member))
        (knows.append _) isInserted with ⟨rest, makes⟩
      have together := makesLane.append makes
      refine ⟨made ++ [.image] ++ rest, ?_⟩
      rw [lanesCode, ← lengthLane, Nat.add_sub_cancel]
      simpa [Nat.add_assoc] using together

variable (form) in
theorem getElem?_imageOf_image {bank : Nat} (member : bank ∈ placement.banks) :
    (form.constants.map (fun _ => ValueType.scalar .i64) ++
        placement.banks.map fun _ => ValueType.image)[form.imageOf placement bank]? =
      some .image := by
  have inside := List.idxOf_lt_length_of_mem member
  rw [imageOf, List.getElem?_append_right (by simp), List.length_map, Nat.add_sub_cancel_left,
    List.getElem?_map, List.getElem?_eq_getElem inside, Option.map_some]

theorem makes_constants :
    ∀ (constants : List (BitVec 64)) (types : List ValueType),
      Code.Makes types (constants.map (.iconst (.scalar .i64)))
        (constants.map fun _ => .scalar .i64)
  | [], types => .nil types
  | _ :: rest, _ => .cons (.iconst rfl) (makes_constants rest _)

theorem makes_getBanks :
    ∀ (banks : List Nat) (types : List ValueType), (∀ bank ∈ banks, bank < bankCount) →
      Code.Makes types (banks.map .getBank) (banks.map fun _ => .image)
  | [], types, _ => .nil types
  | bank :: rest, _, inside => by
      have insideRest : ∀ other ∈ rest, other < bankCount :=
        fun other member => inside other (List.mem_cons_of_mem bank member)
      exact .cons (.getBank (inside bank List.mem_cons_self)) (makes_getBanks rest _ insideRest)

theorem knows_start :
    form.Knows placement (form.constants.map (fun _ => .scalar .i64) ++
      placement.banks.map fun _ => .image) where
  constants value inside := by
    rw [List.getElem?_append_left (by simpa using inside), List.getElem?_map,
      List.getElem?_eq_getElem inside, Option.map_some]
  images source member := getElem?_imageOf_image form (mem_banks_source member)

theorem Fits.laneInside (fits : form.Fits) {index : Nat} (inside : index < form.shape.lanes) :
    form.LaneInside form.located index where
  readable source member := by
    rcases List.mem_map.mp member with ⟨register, registerMember, rfl⟩
    exact Shape.lane_lt_lanesPerBank fits.fills inside
      (RegisterClass.locate_inside fits.vector (fits.sources register registerMember)).2
  writable := Shape.lane_lt_lanesPerBank fits.fills inside fits.destination_inside.2

theorem Fits.makes_emission (fits : form.Fits) (uniform : form.Uniform) {body : Body}
    (suits : body.Suits form.shape.operandType (form.constants.length + form.sources.length)) :
    ∃ made, Code.Makes [] (form.emission fun _ => body).code made := by
  have insideBanks : ∀ bank ∈ form.located.banks, bank < bankCount := by
    intro bank member
    rw [Placement.banks, List.mem_eraseDups] at member
    rcases List.mem_cons.mp member with rfl | isSource
    · exact fits.destination_inside.1
    · rcases List.mem_map.mp isSource with ⟨source, sourceMember, rfl⟩
      rcases List.mem_map.mp sourceMember with ⟨register, registerMember, rfl⟩
      exact (RegisterClass.locate_inside fits.vector (fits.sources register registerMember)).1
  have constants := makes_constants form.constants []
  have images := makes_getBanks form.located.banks
    (form.constants.map fun _ => .scalar .i64) insideBanks
  have isImage := getElem?_imageOf_image form (mem_banks_destination form.located)
  rcases makes_lanesCode fits.integer uniform (List.length_map _) suits fits.destination_inside.1
    (List.range form.shape.lanes) _ _
    (fun index member => fits.laneInside (List.mem_range.mp member)) knows_start isImage with
    ⟨made, lanes⟩
  have together := (constants.append images).append lanes
  simp only [List.length_append, List.length_map] at together
  have code : (form.emission fun _ => body).code =
      form.constants.map (.iconst (.scalar .i64)) ++ form.located.banks.map .getBank ++
        form.lanesCode form.located (fun _ => body) (List.range form.shape.lanes)
          (form.constants.length + form.located.banks.length)
          (form.imageOf form.located form.located.destination.bank) := by
    simp only [emission, fits.placement?, constantCode]
  rw [code]
  exact ⟨_, together⟩

end VectorForm

/-! ## Scalar forms -/

theorem makes_readScalar {type : ScalarType} (float : type.isFloat = true) {register : Nat}
    (number : register < 32) (types : List ValueType) :
    Code.Makes types (readScalar (.scalar type) register types.length)
      [.image, .scalar type] := by
  rcases scalarLocation_inside float number with ⟨bank, position⟩
  have isImage : (types ++ [ValueType.image])[types.length]? = some .image := by simp
  exact .cons (.getBank bank) (.single (.extractLane isImage position))

theorem makes_writeScalar {type : ScalarType} (float : type.isFloat = true) {register value : Nat}
    (number : register < 32) {types : List ValueType}
    (found : types[value]? = some (.scalar type)) :
    Code.Makes types (writeScalar (.scalar type) register value types.length)
      [.image, .image] := by
  rcases scalarLocation_inside float number with ⟨bank, position⟩
  have isImage : (types ++ [ValueType.image])[types.length]? = some .image := by simp
  have isInserted : (types ++ [ValueType.image] ++ [ValueType.image])[types.length + 1]? =
      some .image := by
    simp
  exact .cons (.getBank bank) (.cons
    (.insertLane isImage (getElem?_append_of_some found) position (.inl rfl))
    (.single (.setBank bank isInserted)))

namespace ScalarForm

theorem makes_reads {type : ScalarType} (float : type.isFloat = true) :
    ∀ (sources : List Nat) (first : Nat) (types : List ValueType), types.length = 2 * first →
      (∀ source ∈ sources, source < 32) →
      ∃ made,
        Code.Makes types
          ((sources.zipIdx first).flatMap fun (source, index) =>
            readScalar (.scalar type) source (2 * index)) made ∧
        made.length = 2 * sources.length ∧
        ∀ index, first ≤ index → index < first + sources.length →
          (types ++ made)[2 * index + 1]? = some (.scalar type)
  | [], first, types, _, _ => ⟨[], .nil types, rfl, by simp; omega⟩
  | source :: rest, first, types, length, numbers => by
      have makesRead := makes_readScalar float (numbers source List.mem_cons_self) types
      have lengthNext : (types ++ [ValueType.image, .scalar type]).length = 2 * (first + 1) := by
        rw [List.length_append, length]
        rfl
      rcases makes_reads float rest (first + 1) _ lengthNext
        fun other member => numbers other (List.mem_cons_of_mem source member) with
        ⟨made, makes, lengthMade, others⟩
      refine ⟨[.image, .scalar type] ++ made, ?_, ?_, ?_⟩
      · rw [length] at makesRead
        simpa using makesRead.append makes
      · simp [lengthMade]
        omega
      · intro index starts ends
        rw [List.length_cons] at ends
        rw [← List.append_assoc]
        rcases Nat.eq_or_lt_of_le starts with rfl | later
        · rw [← length]
          exact getElem?_append_of_some (by simp)
        · exact others index later (by omega)

theorem Fits.makes_emission {form : ScalarForm} (fits : form.Fits) {body : Body}
    (suits : body.Suits form.type form.sources.length) :
    ∃ made, Code.Makes [] (form.emission body).code made := by
  rcases makes_reads fits.float form.sources 0 [] rfl fits.sources with
    ⟨read, makesReads, lengthRead, reads⟩
  rw [List.nil_append] at reads
  have operands : ∀ operand ∈ (List.range form.sources.length).map fun index => 2 * index + 1,
      read[operand]? = some (.scalar form.type) := by
    intro operand member
    rcases List.mem_map.mp member with ⟨index, indexMember, rfl⟩
    exact reads index (Nat.zero_le index) (by simpa using indexMember)
  rcases suits.makes (by simp) operands with ⟨computed, makesBody, result⟩
  have lengthComputed : (read ++ computed).length =
      2 * form.sources.length + body.code.valueCount := by
    rw [List.length_append, lengthRead, makesBody.length, Body.valueCount_place]
  have makesWrite := makes_writeScalar fits.float fits.destination result
  rw [lengthRead] at makesBody makesWrite
  rw [lengthComputed] at makesWrite
  rw [emission, fits.keeps]
  exact ⟨_, (makesReads.append makesBody).append makesWrite⟩

/-- The register that is written is of the kind for the type of the body's result. -/
theorem Fits.writing_eq {form : ScalarForm} (fits : form.Fits) {body : Body}
    (suits : body.Suits form.type form.sources.length) :
    form.writing Instruction.resultType? body = form := by
  have operands : form.operandTypes =
      List.replicate form.sources.length (.scalar form.type) := by
    rw [operandTypes, List.map_const']
  rw [writing, operands, suits.resultType?, Option.getD_some, ← fits.keeps]

end ScalarForm

theorem Plan.Sound.makes_emission {plan : Plan} :
    plan.Sound → ∃ made, Code.Makes [] plan.emission.code made
  | .vector fits uniform suits => fits.makes_emission uniform suits
  | .scalar fits suits => fits.makes_emission suits

end LaneLift.Lifting
