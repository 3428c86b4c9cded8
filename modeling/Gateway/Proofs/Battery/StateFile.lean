import Gateway.Proofs.Battery.Reading
import Gateway.Proofs.Text.Lines
import Gateway.Proofs.Text.Literal

/-!
# The last line counts

What a reading says of a property is settled by one line of the state file,
the last that gives something under the property's name (`sums_parse`). All
other lines may be missing, or stand elsewhere: two texts are read alike if
under each name they have the same lines in the same order
(`parse_eq_of_filter_eq`).

A line changes the property that it names, to what is read of its value,
and leaves alone all others. This is one fact about the six properties
(`of_noteLine`), which differ in their names and in what is read of a value;
so one induction over the lines does for all of them (`of_foldl`).
-/

namespace Gateway.Battery

/-! ## What lines say -/

/-- A line gives a value under a name: but for blanks, they are what stands
before and after its first equals sign. -/
def Gives (line : List Char) (name : String) (value : List Char) : Prop :=
  ∃ before after, line = before ++ '=' :: after ∧ '=' ∉ before
    ∧ Text.trim before = name.toList ∧ Text.trim after = value

/-- The last of some lines that gives anything under a name gives a
value. -/
def Says (lines : List (List Char)) (name : String) (value : List Char) :
    Prop :=
  ∃ earlier line later, lines = earlier ++ line :: later
    ∧ Gives line name value
    ∧ ∀ other ∈ later, ∀ v, ¬ Gives other name v

/-- What a line gives under a name. -/
def given? (name : String) (line : List Char) : Option (List Char) :=
  (Text.cutAt '=' line).bind fun (before, after) =>
    if Text.trim before = name.toList then some (Text.trim after) else none

theorem given?_eq_some_iff {name : String} {line value : List Char} :
    given? name line = some value ↔ Gives line name value := by
  simp only [given?, Option.bind_eq_some_iff, Prod.exists,
    Text.cutAt_eq_some_iff, Option.ite_none_right_eq_some,
    Option.some.injEq, Gives, and_assoc]

theorem given?_eq_none_iff {name : String} {line : List Char} :
    given? name line = none ↔ ∀ v, ¬ Gives line name v := by
  simp only [Option.eq_none_iff_forall_ne_some, ne_eq, given?_eq_some_iff]

instance (name : String) :
    DecidablePred fun line => ∃ value, Gives line name value := fun line =>
  decidable_of_iff ((given? name line).isSome = true) <| by
    simp only [Option.isSome_iff_exists, given?_eq_some_iff]

/-- What the last line under a name gives. -/
def last? (name : String) (lines : List (List Char)) : Option (List Char) :=
  (lines.filterMap (given? name)).getLast?

theorem last?_eq_some_iff {name : String} {lines : List (List Char)}
    {value : List Char} :
    last? name lines = some value ↔ Says lines name value := by
  rw [last?, List.getLast?_eq_some_iff]
  constructor
  · rintro ⟨front, hgiven⟩
    obtain ⟨earlier, rest, rfl, -, hrest⟩ :=
      List.filterMap_eq_append_iff.mp hgiven
    obtain ⟨silent, line, later, rfl, -, hline, hlater⟩ :=
      List.filterMap_eq_cons_iff.mp hrest
    rw [List.filterMap_eq_nil_iff] at hlater
    exact ⟨earlier ++ silent, line, later, (List.append_assoc ..).symm,
      given?_eq_some_iff.mp hline, fun other hother =>
        given?_eq_none_iff.mp (hlater other hother)⟩
  · rintro ⟨earlier, line, later, rfl, hline, hlater⟩
    have hnone : later.filterMap (given? name) = [] :=
      List.filterMap_eq_nil_iff.mpr fun other hother =>
        given?_eq_none_iff.mpr (hlater other hother)
    refine ⟨earlier.filterMap (given? name), ?_⟩
    rw [List.filterMap_append,
      List.filterMap_cons_some (given?_eq_some_iff.mpr hline), hnone]

theorem Says.unique {lines : List (List Char)} {name : String}
    {value value' : List Char} (h : Says lines name value)
    (h' : Says lines name value') : value = value' := by
  rw [← last?_eq_some_iff] at h h'
  exact Option.some_injective _ (h.symm.trans h')

theorem last?_eq_none_iff {name : String} {lines : List (List Char)} :
    last? name lines = none
      ↔ ∀ line ∈ lines, ∀ v, ¬ Gives line name v := by
  rw [last?, List.getLast?_eq_none_iff, List.filterMap_eq_nil_iff]
  simp only [given?_eq_none_iff]

/-- Only the lines under a name count for what the last one gives. -/
theorem last?_filter (name : String) (lines : List (List Char)) :
    last? name (lines.filter fun line => ∃ value, Gives line name value)
      = last? name lines := by
  rw [last?, last?, List.filterMap_filter]
  congr 2
  funext line
  split
  · rfl
  · next hsilent =>
      refine (given?_eq_none_iff.mpr fun v hv => ?_).symm
      exact hsilent (decide_eq_true ⟨v, hv⟩)

/-! ## The properties of a reading -/

namespace Reading

/-- What a reading tells of. -/
inductive Property where
  | status
  | health
  | capacity
  | temperature
  | voltage
  | current

namespace Property

/-- The name of a property in the state file. -/
def name : Property → String
  | status => "POWER_SUPPLY_STATUS"
  | health => "POWER_SUPPLY_HEALTH"
  | capacity => "POWER_SUPPLY_CAPACITY"
  | temperature => "POWER_SUPPLY_TEMP"
  | voltage => "POWER_SUPPLY_VOLTAGE_NOW"
  | current => "POWER_SUPPLY_CURRENT_NOW"

/-- What a property is known by. -/
abbrev Value : Property → Type
  | status | health => String
  | capacity => Option UInt8
  | temperature | voltage | current => Option Single

/-- A property in a reading. -/
def of : (p : Property) → Reading → p.Value
  | status, r => r.status
  | health, r => r.health
  | capacity, r => r.capacity
  | temperature, r => r.temperature
  | voltage, r => r.voltage
  | current, r => r.current

/-- What is read of the text of a property. -/
def read : (p : Property) → List Char → p.Value
  | status, value => String.ofList value
  | health, value => String.ofList value
  | capacity, value => percent? value
  | temperature, value => scaled? 10 value
  | voltage, value => scaled? 1000000 value
  | current, value => scaled? 1000000 value

theorem of_note (p : Property) (r : Reading) (name value : List Char) :
    p.of (r.note name value)
      = if String.ofList name = p.name then p.read value else p.of r := by
  unfold Reading.note
  split
  case h_7 => cases p <;> simp_all [Property.name, of]
  all_goals
    next hname =>
      rw [hname]
      cases p <;> simp [Property.name, of, read]

/-- A line changes a property if it gives something under its name. -/
theorem of_noteLine (p : Property) (r : Reading) (line : List Char) :
    p.of (r.noteLine line) = ((given? p.name line).map p.read).getD (p.of r) := by
  rw [noteLine, given?]
  cases Text.cutAt '=' line with
  | none => rfl
  | some cut =>
      obtain ⟨before, after⟩ := cut
      have hname : String.ofList (Text.trim before) = p.name
          ↔ Text.trim before = p.name.toList := by
        rw [← String.toList_inj, String.toList_ofList]
      simp only [of_note, Option.bind_some, hname]
      split <;> rfl

/-- Lines leave of each property what the last one under its name gives. -/
theorem of_foldl (p : Property) (r : Reading) (lines : List (List Char)) :
    p.of (lines.foldl noteLine r)
      = ((last? p.name lines).map p.read).getD (p.of r) := by
  induction lines generalizing r with
  | nil => rfl
  | cons line lines ih =>
      rw [List.foldl_cons, ih, of_noteLine, last?, last?]
      cases hgiven : given? p.name line with
      | none => rw [List.filterMap_cons_none hgiven]; rfl
      | some value =>
          rw [List.filterMap_cons_some hgiven, List.getLast?_cons]
          cases (lines.filterMap (given? p.name)).getLast? <;> rfl

theorem of_parse {lines : List (List Char)} {text : List Char}
    (h : Text.Lined lines text) (p : Property) :
    p.of (parse text) = ((last? p.name lines).map p.read).getD (p.of empty) := by
  rw [parse, h.lines_eq, of_foldl]

end Property

/-- A reading is its properties. -/
theorem eq_of_properties {r r' : Reading} (h : ∀ p, Property.of p r = p.of r') :
    r = r' := by
  obtain ⟨status, health, capacity, temperature, voltage, current⟩ := r
  obtain ⟨status', health', capacity', temperature', voltage', current'⟩ := r'
  obtain rfl : status = status' := h .status
  obtain rfl : health = health' := h .health
  obtain rfl : capacity = capacity' := h .capacity
  obtain rfl : temperature = temperature' := h .temperature
  obtain rfl : voltage = voltage' := h .voltage
  obtain rfl : current = current' := h .current
  rfl

/-! ## What a reading says -/

/-- A text is what the last line under a name gives, and empty without such
a line. -/
def IsText (lines : List (List Char)) (name : String) (s : String) : Prop :=
  (∃ value, Says lines name value ∧ s = String.ofList value)
    ∨ (∀ line ∈ lines, ∀ v, ¬ Gives line name v) ∧ s = ""

/-- A percentage is the number that the last line under a name gives, if it
is one of 64 bits, with what lies below 0 or above 100 brought there. -/
def IsPercentage (lines : List (List Char)) (name : String)
    (percentage : Option UInt8) : Prop :=
  ∀ c, percentage = some c ↔ ∃ value n, Says lines name value
    ∧ Text.IsInteger value n ∧ -2 ^ 63 ≤ n ∧ n < 2 ^ 63
    ∧ (c.toNat : Int) = max 0 (min n 100)

/-- A measurement is the number that the last line under a name gives, if it
is one, in parts of a unit. -/
def IsMeasured (lines : List (List Char)) (name : String) (parts : Nat)
    (measured : Option Single) : Prop :=
  ∀ x, measured = some x ↔ ∃ value y, Says lines name value
    ∧ Single.parse? value = some y ∧ x = y.dividedBy parts

/-- A reading sums up lines. -/
structure Sums (lines : List (List Char)) (r : Reading) : Prop where
  status : IsText lines "POWER_SUPPLY_STATUS" r.status
  health : IsText lines "POWER_SUPPLY_HEALTH" r.health
  capacity : IsPercentage lines "POWER_SUPPLY_CAPACITY" r.capacity
  temperature : IsMeasured lines "POWER_SUPPLY_TEMP" 10 r.temperature
  voltage : IsMeasured lines "POWER_SUPPLY_VOLTAGE_NOW" 1000000 r.voltage
  current : IsMeasured lines "POWER_SUPPLY_CURRENT_NOW" 1000000 r.current

theorem percent?_eq_some_iff {value : List Char} {c : UInt8} :
    percent? value = some c ↔ ∃ n, Text.IsInteger value n
      ∧ -2 ^ 63 ≤ n ∧ n < 2 ^ 63 ∧ (c.toNat : Int) = max 0 (min n 100) := by
  have hmax : Nat.pow 2 63 - 1 = 9223372036854775807 := rfl
  simp only [percent?, Option.map_eq_some_iff, Text.signed?_eq_some_iff, hmax]
  refine exists_congr fun n => ?_
  have hsize : (UInt8.ofNat (min n.toNat 100)).toNat = min n.toNat 100 :=
    UInt8.toNat_ofNat_of_lt' (by rw [UInt8.size]; omega)
  rw [← UInt8.toNat_inj, hsize]
  constructor
  · rintro ⟨⟨hn, hlow, hhigh⟩, hc⟩
    exact ⟨hn, by omega, by omega, by omega⟩
  · rintro ⟨hn, hlow, hhigh, hc⟩
    exact ⟨⟨hn, by omega, by omega⟩, by omega⟩

section

variable {lines : List (List Char)} {name : String}

theorem isText_of_eq {s : String}
    (h : s = ((last? name lines).map String.ofList).getD "") :
    IsText lines name s := by
  cases hlast : last? name lines with
  | none =>
      rw [hlast] at h
      exact .inr ⟨last?_eq_none_iff.mp hlast, h⟩
  | some value =>
      rw [hlast] at h
      exact .inl ⟨value, last?_eq_some_iff.mp hlast, h⟩

theorem isPercentage_of_eq {percentage : Option UInt8}
    (h : percentage = ((last? name lines).map percent?).getD none) :
    IsPercentage lines name percentage := by
  intro c
  simp only [h, ← last?_eq_some_iff]
  cases last? name lines <;> simp [percent?_eq_some_iff]

theorem isMeasured_of_eq {parts : Nat} {measured : Option Single}
    (h : measured = ((last? name lines).map (scaled? parts)).getD none) :
    IsMeasured lines name parts measured := by
  intro x
  simp only [h, ← last?_eq_some_iff]
  cases last? name lines <;> simp [scaled?, eq_comm]

end

/-- What is read of a text sums up its lines. -/
theorem sums_parse {lines : List (List Char)} {text : List Char}
    (h : Text.Lined lines text) : Sums lines (parse text) where
  status := isText_of_eq (Property.of_parse h .status)
  health := isText_of_eq (Property.of_parse h .health)
  capacity := isPercentage_of_eq (Property.of_parse h .capacity)
  temperature := isMeasured_of_eq (Property.of_parse h .temperature)
  voltage := isMeasured_of_eq (Property.of_parse h .voltage)
  current := isMeasured_of_eq (Property.of_parse h .current)

/-! ## Texts that are read alike -/

/-- The names of the properties. -/
def names : List String :=
  ["POWER_SUPPLY_STATUS", "POWER_SUPPLY_HEALTH", "POWER_SUPPLY_CAPACITY",
    "POWER_SUPPLY_TEMP", "POWER_SUPPLY_VOLTAGE_NOW",
    "POWER_SUPPLY_CURRENT_NOW"]

theorem Property.name_mem_names (p : Property) : p.name ∈ names := by
  cases p <;> simp [Property.name, names]

/-- The lines under each name settle what is read. -/
theorem parse_eq_of_filter_eq {lines lines' : List (List Char)}
    {text text' : List Char} (h : Text.Lined lines text)
    (h' : Text.Lined lines' text')
    (hsame : ∀ name ∈ names,
      lines.filter (fun line => ∃ v, Gives line name v)
        = lines'.filter fun line => ∃ v, Gives line name v) :
    parse text = parse text' := by
  refine eq_of_properties fun p => ?_
  rw [p.of_parse h, p.of_parse h', ← last?_filter p.name lines,
    hsame _ p.name_mem_names, last?_filter]

/-- What is read does not change with lines that name no property. -/
theorem parse_eq_of_silent {front extra back : List (List Char)}
    {text text' : List Char}
    (hsilent : ∀ line ∈ extra, ∀ name ∈ names, ∀ v, ¬ Gives line name v)
    (h : Text.Lined (front ++ extra ++ back) text)
    (h' : Text.Lined (front ++ back) text') : parse text = parse text' := by
  refine parse_eq_of_filter_eq h h' fun name hname => ?_
  have hextra : extra.filter (fun line => ∃ v, Gives line name v) = [] := by
    simpa using fun line hline => hsilent line hline name hname
  rw [List.filter_append, List.filter_append, hextra, List.append_nil,
    List.filter_append]

/-! ## Values that cannot be read -/

section

variable {lines : List (List Char)} {value : List Char} {name : String}

theorem IsPercentage.eq_none {percentage : Option UInt8}
    (h : IsPercentage lines name percentage) (hlast : Says lines name value)
    (hunread : ∀ n, Text.IsInteger value n → n < -2 ^ 63 ∨ 2 ^ 63 ≤ n) :
    percentage = none := by
  refine Option.eq_none_iff_forall_ne_some.mpr fun c hc => ?_
  obtain ⟨v, n, hsays, hn, hlow, hhigh, -⟩ := (h c).mp hc
  obtain rfl := hlast.unique hsays
  have hrange := hunread n hn
  omega

theorem IsMeasured.eq_none {parts : Nat} {measured : Option Single}
    (h : IsMeasured lines name parts measured) (hlast : Says lines name value)
    (hunread : Single.parse? value = none) : measured = none := by
  refine Option.eq_none_iff_forall_ne_some.mpr fun x hx => ?_
  obtain ⟨v, y, hsays, hy, -⟩ := (h x).mp hx
  obtain rfl := hlast.unique hsays
  rw [hunread] at hy
  cases hy

end

/-- Every text is made of lines, and of each property the last line under
its name settles what is read. So texts with the same lines under each name,
in the same order, are read alike, however these lie among each other and
among lines that name no property. A capacity that is known is at most 100,
and a value that cannot be read leaves none, whatever came before. -/
theorem last_line_counts :
    (∀ text, ∃ lines, Text.Lined lines text)
      ∧ (∀ lines text, Text.Lined lines text → Sums lines (parse text))
      ∧ (∀ lines lines' text text', Text.Lined lines text →
        Text.Lined lines' text' →
        (∀ name ∈ names, lines.filter (fun line => ∃ v, Gives line name v)
          = lines'.filter fun line => ∃ v, Gives line name v) →
        parse text = parse text')
      ∧ (∀ front extra back text text',
        (∀ line ∈ extra, ∀ name ∈ names, ∀ v, ¬ Gives line name v) →
        Text.Lined (front ++ extra ++ back) text →
        Text.Lined (front ++ back) text' → parse text = parse text')
      ∧ (∀ text c, (parse text).capacity = some c → c ≤ 100)
      ∧ ∀ lines text, Text.Lined lines text → ∀ value,
        (Says lines "POWER_SUPPLY_CAPACITY" value →
          (∀ n, Text.IsInteger value n → n < -2 ^ 63 ∨ 2 ^ 63 ≤ n) →
          (parse text).capacity = none)
        ∧ (Single.parse? value = none →
          (Says lines "POWER_SUPPLY_TEMP" value →
            (parse text).temperature = none)
          ∧ (Says lines "POWER_SUPPLY_VOLTAGE_NOW" value →
            (parse text).voltage = none)
          ∧ (Says lines "POWER_SUPPLY_CURRENT_NOW" value →
            (parse text).current = none)) := by
  refine ⟨Text.exists_lined, fun _ _ => sums_parse,
    fun _ _ _ _ => parse_eq_of_filter_eq, fun _ _ _ _ _ => parse_eq_of_silent,
    modest_parse, fun lines text hlines value => ?_⟩
  have hsums := sums_parse hlines
  exact ⟨hsums.capacity.eq_none, fun hunread =>
    ⟨fun hlast => hsums.temperature.eq_none hlast hunread,
      fun hlast => hsums.voltage.eq_none hlast hunread,
      fun hlast => hsums.current.eq_none hlast hunread⟩⟩

/-- A good capacity and then a bad one; a line that gives nothing and a
status follow, and the status may come first as well. -/
theorem last_line_counts_interleaved :
    let status := "POWER_SUPPLY_STATUS=Charging".toList
    let good := "POWER_SUPPLY_CAPACITY=57".toList
    let bad := " POWER_SUPPLY_CAPACITY = n/a".toList
    let text := good ++ '\r' :: '\n' :: (bad ++ '\n' ::
      ("POWER_SUPPLY_NAME".toList ++ '\n' :: status))
    let text' := status ++ '\n' :: (good ++ '\n' :: (bad ++ '\n' :: []))
    (parse text).capacity = none ∧ parse text = parse text' := by
  intro status good bad text text'
  have hlast : Text.Lined [status] status := .last (by decide) (by decide)
  have hlined : Text.Lined
      [good, bad, "POWER_SUPPLY_NAME".toList, status] text :=
    .returnFeed (by decide) (.feed (by decide) (by decide)
      (.feed (by decide) (by decide) hlast))
  have hlined' : Text.Lined [status, good, bad] text' :=
    .feed (by decide) (by decide) (.feed (by decide) (by decide)
      (.feed (by decide) (by decide) .empty))
  have hbad : Gives bad "POWER_SUPPLY_CAPACITY" "n/a".toList :=
    ⟨" POWER_SUPPLY_CAPACITY ".toList, " n/a".toList, by decide, by decide,
      by decide, by decide⟩
  have hsays : Says [good, bad, "POWER_SUPPLY_NAME".toList, status]
      "POWER_SUPPLY_CAPACITY" "n/a".toList := by
    refine ⟨[good], bad, ["POWER_SUPPLY_NAME".toList, status], rfl, hbad, ?_⟩
    simp only [← given?_eq_none_iff]
    decide
  have hunread : ∀ n, Text.IsInteger "n/a".toList n →
      n < -2 ^ 63 ∨ 2 ^ 63 ≤ n := by
    intro n hn
    by_contra hrange
    have hread : Text.signed? (2 ^ 63 - 1) "n/a".toList = some n :=
      Text.signed?_eq_some_iff.mpr ⟨hn, by omega, by omega⟩
    have hnone : Text.signed? (2 ^ 63 - 1) "n/a".toList = none := by decide
    rw [hnone] at hread
    cases hread
  obtain ⟨-, -, halike, -, -, herased⟩ := last_line_counts
  refine ⟨(herased _ text hlined _).1 hsays hunread,
    halike _ _ text text' hlined hlined' ?_⟩
  decide

end Reading

end Gateway.Battery
