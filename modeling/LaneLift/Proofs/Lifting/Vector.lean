import LaneLift.Lifting.Vector
import LaneLift.Proofs.Lane.Appending
import LaneLift.Proofs.Lifting.Body
import LaneLift.Proofs.Register.Memory

/-!
# Running vector instructions

The code of a vector instruction is followed piece by piece: the constants, the
images read at the start, the lanes, the commit. While the lanes are worked
through, the images keep what was read and only the working image changes, lane
by lane; so however the registers overlap, every body is given lanes as they
were before the instruction.
-/

namespace LaneLift.Lifting

open Lane (Code Datum Effect Instruction Progress ScalarType Values)

def LaneReading.present (reading : LaneReading) (type : ScalarType)
    (pattern : BitVec type.width) : Datum :=
  match reading with
  | .float => .scalar type pattern
  | .signed => .scalar .i64 (pattern.signExtend 64)
  | .unsigned => .scalar .i64 (pattern.setWidth 64)

namespace Shape

theorem present_of_not_widens {shape : Shape} (narrow : shape.widens = false)
    (pattern : BitVec shape.type.width) :
    shape.reading.present shape.type pattern = .scalar shape.type pattern := by
  rcases shape with ⟨type, lanes, classes, reading⟩
  cases reading with
  | float => rfl
  | signed | unsigned =>
      have widest : type = .i64 := by simpa [widens] using narrow
      subst widest
      simp [LaneReading.present]

variable [FloatArithmetic]

theorem compute?_extend {shape : Shape} (wide : shape.widens = true)
    (integer : shape.reading ≠ .float → shape.type.isInteger = true)
    {values : List Datum} {value : Nat} {pattern : BitVec shape.type.width}
    (found : values[value]? = some (.scalar shape.type pattern)) :
    Instruction.compute? values
        (.extend (if shape.reading = .signed then .sextend else .uextend) (.scalar .i64) value) =
      some (shape.reading.present shape.type pattern) := by
  have notFloat : shape.reading ≠ .float := by
    intro isFloat
    simp [widens, isFloat] at wide
  have isInteger := integer notFloat
  cases reading : shape.reading with
  | float => exact absurd reading notFloat
  | signed | unsigned =>
      simp [Instruction.compute?, found, Datum.signed?, Datum.unsigned?, isInteger,
        Datum.ofBits?, LaneReading.present]

theorem reaches_read {shape : Shape} {values : List Datum} {image lane : Nat} {content : Image}
    (integer : shape.reading ≠ .float → shape.type.isInteger = true)
    (found : values[image]? = some (.image content))
    (inside : lane < shape.type.lanesPerBank) (registers : RegisterFile) :
    ∃ made,
      Code.Reaches ⟨values, registers⟩ (shape.read image lane values.length)
        ⟨values ++ made, registers⟩ ∧
      made.length = shape.valuesPerRead ∧
      (values ++ made)[values.length + (shape.valuesPerRead - 1)]? =
        some (shape.reading.present shape.type (content.lane shape.type.width lane)) := by
  have extracts := Instruction.succeeds_extractLane shape.type found inside registers
  cases wide : shape.widens with
  | false =>
      refine ⟨[.scalar shape.type (content.lane shape.type.width lane)], ?_, ?_, ?_⟩
      · simpa [read, wide, Progress.apply] using Code.Reaches.single extracts
      · simp [valuesPerRead, wide]
      · simp [valuesPerRead, wide, present_of_not_widens wide]
  | true =>
      have extracted : (values ++ [Datum.scalar shape.type (content.lane shape.type.width lane)])[
          values.length]? = some (.scalar shape.type (content.lane shape.type.width lane)) := by
        simp
      have extends' := Instruction.effect_of_compute?
        (compute?_extend wide integer extracted) registers
      refine ⟨[.scalar shape.type (content.lane shape.type.width lane),
        shape.reading.present shape.type (content.lane shape.type.width lane)], ?_, ?_, ?_⟩
      · have run := Code.Reaches.cons extracts (.single extends')
        simpa [read, wide, Progress.apply] using run
      · simp [valuesPerRead, wide]
      · simp [valuesPerRead, wide]

end Shape

namespace VectorForm

structure Ready (form : VectorForm) (placement : Placement) (content : Nat → Image)
    (values : List Datum) : Prop where
  constants : (List.range form.constants.length).map (values[·]?) =
    form.constants.map fun constant => some (.scalar .i64 constant)
  images : ∀ source ∈ placement.sources,
    values[form.imageOf placement source.bank]? = some (.image (content source.bank))

def arguments (form : VectorForm) (placement : Placement) (content : Nat → Image)
    (index : Nat) : List Datum :=
  form.constants.map (.scalar .i64) ++ placement.sources.map fun source =>
    form.shape.reading.present form.shape.type
      ((content source.bank).lane form.shape.type.width (form.shape.lane index source.position))

def insert (form : VectorForm) (placement : Placement)
    (value : Nat → BitVec form.shape.type.width) (working : Image) (index : Nat) : Image :=
  working.setLane (form.shape.lane index placement.destination.position) (value index)

variable {form : VectorForm} {placement : Placement} {content : Nat → Image}
  {values : List Datum}

theorem Ready.append (ready : form.Ready placement content values) (made : List Datum) :
    form.Ready placement content (values ++ made) where
  constants := by
    rw [← ready.constants]
    apply List.map_congr_left
    intro value member
    have entry := congrArg (·[value]?) ready.constants
    rw [List.mem_range] at member
    simp only [List.getElem?_map, List.getElem?_range member, Option.map_some,
      List.getElem?_eq_getElem member, Option.some.injEq] at entry
    rw [entry]
    exact getElem?_append_of_some entry
  images source member := getElem?_append_of_some (ready.images source member)

theorem reaches_reads [FloatArithmetic] (index next : Nat)
    (integer : form.shape.reading ≠ .float → form.shape.type.isInteger = true)
    (registers : RegisterFile) :
    ∀ (sources : List Location) (first : Nat) (values : List Datum),
      values.length = next + form.shape.valuesPerRead * first →
      (∀ source ∈ sources,
        values[form.imageOf placement source.bank]? = some (.image (content source.bank)) ∧
          form.shape.lane index source.position < form.shape.type.lanesPerBank) →
      ∃ made,
        Code.Reaches ⟨values, registers⟩
          ((sources.zipIdx first).flatMap fun (source, count) =>
            form.shape.read (form.imageOf placement source.bank)
              (form.shape.lane index source.position)
              (next + form.shape.valuesPerRead * count))
          ⟨values ++ made, registers⟩ ∧
        made.length = form.shape.valuesPerRead * sources.length ∧
        (List.range' first sources.length).map (fun count =>
            (values ++ made)[next + form.shape.valuesPerRead * count +
              (form.shape.valuesPerRead - 1)]?) =
          sources.map fun source => some (form.shape.reading.present form.shape.type
            ((content source.bank).lane form.shape.type.width
              (form.shape.lane index source.position)))
  | [], first, values, _, _ => by
      refine ⟨[], ?_, ?_, ?_⟩
      · rw [List.append_nil]
        exact .nil _
      · simp
      · simp
  | source :: rest, first, values, length, readable => by
      rcases readable source List.mem_cons_self with ⟨found, inside⟩
      rcases Shape.reaches_read integer found inside registers with
        ⟨read, runRead, lengthRead, presented⟩
      have lengthNext : (values ++ read).length =
          next + form.shape.valuesPerRead * (first + 1) := by
        rw [List.length_append, lengthRead, length, Nat.mul_succ, Nat.add_assoc]
      have readableRest : ∀ source ∈ rest,
          (values ++ read)[form.imageOf placement source.bank]? =
              some (.image (content source.bank)) ∧
            form.shape.lane index source.position < form.shape.type.lanesPerBank := by
        intro other member
        rcases readable other (List.mem_cons_of_mem source member) with ⟨found, inside⟩
        exact ⟨getElem?_append_of_some found, inside⟩
      rcases reaches_reads index next integer registers rest (first + 1) (values ++ read)
        lengthNext readableRest with ⟨made, run, lengthMade, others⟩
      refine ⟨read ++ made, ?_, ?_, ?_⟩
      · rw [length] at runRead
        simpa using runRead.append run
      · rw [List.length_append, lengthRead, lengthMade, List.length_cons, Nat.mul_succ,
          Nat.add_comm]
      · rw [length] at presented
        rw [List.append_assoc] at others
        rw [List.length_cons, List.range'_succ, List.map_cons, List.map_cons, others,
          ← List.append_assoc, getElem?_append_of_some presented]

theorem map_operands {index next : Nat} (ready : form.Ready placement content values)
    (reads : (List.range placement.sources.length).map (fun count =>
        values[next + form.shape.valuesPerRead * count + (form.shape.valuesPerRead - 1)]?) =
      placement.sources.map fun source => some (form.shape.reading.present form.shape.type
        ((content source.bank).lane form.shape.type.width
          (form.shape.lane index source.position)))) :
    (List.range form.constants.length ++ (List.range placement.sources.length).map fun count =>
        next + form.shape.valuesPerRead * count + (form.shape.valuesPerRead - 1)).map
        (values[·]?) =
      (form.arguments placement content index).map some := by
  rw [List.map_append, ready.constants, List.map_map, arguments, List.map_append, List.map_map,
    List.map_map]
  exact congrArg _ reads

structure Computes [FloatArithmetic] (form : VectorForm) (placement : Placement)
    (content : Nat → Image)
    (body : Nat → Body) (value : Nat → BitVec form.shape.type.width) (index : Nat) :
    Prop where
  readable : ∀ source ∈ placement.sources,
    form.shape.lane index source.position < form.shape.type.lanesPerBank
  writable : form.shape.lane index placement.destination.position < form.shape.type.lanesPerBank
  yields : (body index).Yields (form.arguments placement content index) (value index)

theorem reaches_laneCode [FloatArithmetic] {body : Nat → Body}
    {value : Nat → BitVec form.shape.type.width}
    {index image : Nat} {working : Image}
    (integer : form.shape.reading ≠ .float → form.shape.type.isInteger = true)
    (computes : form.Computes placement content body value index)
    (ready : form.Ready placement content values)
    (isWorking : values[image]? = some (.image working)) (registers : RegisterFile) :
    ∃ made,
      Code.Reaches ⟨values, registers⟩
        (form.laneCode placement (body index) index values.length image)
        ⟨values ++ made ++ [.image (form.insert placement value working index)],
          registers⟩ := by
  have readableFound : ∀ source ∈ placement.sources,
      values[form.imageOf placement source.bank]? = some (.image (content source.bank)) ∧
        form.shape.lane index source.position < form.shape.type.lanesPerBank :=
    fun source member => ⟨ready.images source member, computes.readable source member⟩
  rcases reaches_reads index values.length integer registers placement.sources 0 values (by simp)
    readableFound with ⟨read, runReads, lengthRead, reads⟩
  rw [← List.range_eq_range'] at reads
  have operands := map_operands (ready.append read) reads
  rcases computes.yields with ⟨type, pattern, evaluates, isValue⟩
  rcases Body.reaches_place operands evaluates registers with ⟨computed, runBody, result⟩
  have start : (values ++ read).length =
      values.length + form.shape.valuesPerRead * placement.sources.length := by
    rw [List.length_append, lengthRead]
  rw [start] at runBody result
  have stillWorking : (values ++ read ++ computed)[image]? = some (.image working) :=
    getElem?_append_of_some (getElem?_append_of_some isWorking)
  have inserts := Instruction.succeeds_insertLane stillWorking result computes.writable registers
  rw [isValue] at inserts
  have run := (runReads.append runBody).append (.single inserts)
  rw [List.append_assoc values read computed] at run
  exact ⟨read ++ computed, run⟩

/-- The code of the remaining lanes replaces them in the working image, one after
another, and commits it. -/
theorem reaches_lanesCode [FloatArithmetic] {body : Nat → Body}
    {value : Nat → BitVec form.shape.type.width}
    {bank : Fin bankCount}
    (integer : form.shape.reading ≠ .float → form.shape.type.isInteger = true)
    (isBank : placement.destination.bank = bank) (registers : RegisterFile) :
    ∀ (remaining : List Nat) (values : List Datum) (image : Nat) (working : Image),
      (∀ index ∈ remaining, form.Computes placement content body value index) →
      form.Ready placement content values →
      values[image]? = some (.image working) →
      ∃ made,
        Code.Reaches ⟨values, registers⟩
          (form.lanesCode placement body remaining values.length image)
          ⟨values ++ made,
            registers.setBank bank (remaining.foldl (form.insert placement value) working)⟩
  | [], values, image, working, _, _, isWorking => by
      have commits : Instruction.Succeeds ⟨values, registers⟩ (.setBank bank image)
          (.commit bank working) := Instruction.succeeds_setBank bank isWorking registers
      refine ⟨[], ?_⟩
      rw [lanesCode, isBank, List.append_nil]
      exact .single commits
  | index :: remaining, values, image, working, computes, ready, isWorking => by
      have computesRest : ∀ other ∈ remaining,
          form.Computes placement content body value other :=
        fun other member => computes other (List.mem_cons_of_mem index member)
      rcases reaches_laneCode integer (computes index List.mem_cons_self) ready isWorking
        registers with ⟨made, runLane⟩
      -- The inserted image is the last value that the code of the lane makes.
      rcases runLane.appends with ⟨all, isAll, lengthAll⟩
      have lengthLane :
          (form.laneCode placement (body index) index values.length image).valueCount =
            made.length + 1 := by
        have lengths := congrArg List.length isAll
        simp only [List.length_append, List.length_cons, List.length_nil, lengthAll] at lengths
        omega
      rw [List.append_assoc] at runLane
      have isInserted : (values ++ (made ++ [.image (form.insert placement value working index)]))[
          values.length + made.length]? =
            some (.image (form.insert placement value working index)) := by
        simp
      rcases reaches_lanesCode integer isBank registers remaining _ _ _ computesRest
        (ready.append _) isInserted with ⟨rest, run⟩
      have together := runLane.append run
      refine ⟨made ++ [.image (form.insert placement value working index)] ++ rest, ?_⟩
      rw [lanesCode, lengthLane, Nat.add_sub_cancel]
      simpa [Nat.add_assoc] using together

/-! ## The whole instruction -/

theorem reaches_constants [FloatArithmetic] (registers : RegisterFile) :
    ∀ (constants : List (BitVec 64)) (values : List Datum),
      Code.Reaches ⟨values, registers⟩ (constants.map (.iconst (.scalar .i64)))
        ⟨values ++ constants.map (.scalar .i64), registers⟩
  | [], values => by
      rw [List.map_nil, List.map_nil, List.append_nil]
      exact .nil _
  | constant :: rest, values => by
      have succeeds : Instruction.Succeeds ⟨values, registers⟩ (.iconst (.scalar .i64) constant)
          (.make (.scalar .i64 constant)) := by
        intro position
        simp [Instruction.effect, Datum.ofBits?, Lane.makeOr]
      have run := reaches_constants registers rest (values ++ [.scalar .i64 constant])
      rw [List.append_assoc] at run
      exact .cons succeeds run

theorem reaches_getBanks [FloatArithmetic] (registers : RegisterFile) :
    ∀ (banks : List Nat) (values : List Datum), (∀ bank ∈ banks, bank < bankCount) →
      Code.Reaches ⟨values, registers⟩ (banks.map .getBank)
        ⟨values ++ banks.map fun bank => .image (registers.image bank), registers⟩
  | [], values, _ => by
      rw [List.map_nil, List.map_nil, List.append_nil]
      exact .nil _
  | bank :: rest, values, inside => by
      have succeeds := Instruction.succeeds_getBank values registers
        (inside bank List.mem_cons_self)
      have run := reaches_getBanks registers rest (values ++ [.image (registers.image bank)])
        fun other member => inside other (List.mem_cons_of_mem bank member)
      rw [List.append_assoc] at run
      exact .cons succeeds run

variable (form) in
theorem getElem?_imageOf (registers : RegisterFile) {bank : Nat}
    (member : bank ∈ placement.banks) :
    (form.constants.map (.scalar .i64) ++
        placement.banks.map fun bank => Datum.image (registers.image bank))[
          form.imageOf placement bank]? = some (.image (registers.image bank)) := by
  have inside := List.idxOf_lt_length_of_mem member
  rw [imageOf, List.getElem?_append_right (by simp), List.length_map, Nat.add_sub_cancel_left,
    List.getElem?_map, List.getElem?_eq_getElem inside, List.getElem_idxOf inside]
  rfl

theorem mem_banks_destination (placement : Placement) :
    placement.destination.bank ∈ placement.banks := by
  rw [Placement.banks, List.mem_eraseDups]
  exact List.mem_cons_self

theorem mem_banks_source {placement : Placement} {source : Location}
    (member : source ∈ placement.sources) : source.bank ∈ placement.banks := by
  rw [Placement.banks, List.mem_eraseDups]
  exact List.mem_cons_of_mem _ (List.mem_map_of_mem member)

theorem ready_start (registers : RegisterFile) :
    form.Ready placement registers.image (form.constants.map (.scalar .i64) ++
      placement.banks.map fun bank => .image (registers.image bank)) where
  constants := by
    apply List.ext_getElem?
    intro value
    by_cases inside : value < form.constants.length
    · simp [inside, List.getElem?_append_left]
    · simp [inside]
  images source member := getElem?_imageOf form registers (mem_banks_source member)

/-- A vector instruction commits its destination's bank with every lane of the
destination replaced, and nothing else. -/
theorem reaches_emission [FloatArithmetic] {body : Nat → Body}
    {value : Nat → BitVec form.shape.type.width}
    {bank : Fin bankCount} {registers : RegisterFile} (placed : form.placement? = some placement)
    (isBank : placement.destination.bank = bank)
    (inside : ∀ source ∈ placement.sources, source.bank < bankCount)
    (integer : form.shape.reading ≠ .float → form.shape.type.isInteger = true)
    (computes : ∀ index < form.shape.lanes,
      form.Computes placement registers.image body value index) :
    ∃ values,
      Code.Reaches ⟨[], registers⟩ (form.emission body).code
        ⟨values, registers.setBank bank ((List.range form.shape.lanes).foldl
          (form.insert placement value) (registers.image bank))⟩ := by
  have insideBanks : ∀ other ∈ placement.banks, other < bankCount := by
    intro other member
    rw [Placement.banks, List.mem_eraseDups] at member
    rcases List.mem_cons.mp member with isDestination | isSource
    · rw [isDestination, isBank]
      exact bank.isLt
    · rcases List.mem_map.mp isSource with ⟨source, sourceMember, rfl⟩
      exact inside source sourceMember
  have constants := reaches_constants registers form.constants []
  have images := reaches_getBanks registers placement.banks (form.constants.map (.scalar .i64))
    insideBanks
  have isWorking := getElem?_imageOf form registers (mem_banks_destination placement)
  rcases reaches_lanesCode integer isBank registers (List.range form.shape.lanes) _ _ _
    (fun index member => computes index (List.mem_range.mp member)) (ready_start registers)
    isWorking with ⟨made, lanes⟩
  have code : (form.emission body).code =
      form.constants.map (.iconst (.scalar .i64)) ++ placement.banks.map .getBank ++
        form.lanesCode placement body (List.range form.shape.lanes)
          (form.constants.length + placement.banks.length)
          (form.imageOf placement placement.destination.bank) := by
    simp only [emission, placed, constantCode]
  have together := (constants.append images).append lanes
  simp only [List.length_append, List.length_map] at together
  rw [code, ← isBank]
  exact ⟨_, together⟩

end VectorForm

end LaneLift.Lifting
