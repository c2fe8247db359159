import EntityQuery.Value.Json
import EntityQuery.Proofs.Json.Spelling
import EntityQuery.Proofs.Uuid

/-!
# Values are received as they are sent

A value is sent without a tag, and its kind is the first that its text belongs to. For moments, identifiers, integers
and what needs no quotes that is the kind it was sent as. Only a string can be taken for something else, and a decimal
is rounded, so both are left out where it matters (`Value.Transmissible`). A leap second within a minute has the text of
the second after it, which is received in its place (`Value.received`). The text of a transmissible value spells a
document that stands for what is received and is nested as deep (`Value.Transmissible.exists_carries`). So the value is
received at every position, unless its lists are nested deeper than documents may be, and it is received as it was sent
if each of its leap seconds ends a minute, and only then (`Value.ofJsonText?_toJsonText`).
-/

namespace EntityQuery.Value

mutual

/-- How deep lists are nested. -/
def depth : Value → Nat
  | list items => itemsDepth items + 1
  | _ => 0

/-- How deep lists are nested in the deepest item. -/
def itemsDepth : List Value → Nat
  | [] => 0
  | v :: rest => max (depth v) (itemsDepth rest)

end

mutual

/-- The moments in a value, at whatever position. -/
def moments : Value → List Timestamp
  | dateTime t => [t]
  | list items => itemsMoments items
  | _ => []

/-- The moments in the items of a list. -/
def itemsMoments : List Value → List Timestamp
  | [] => []
  | v :: rest => moments v ++ itemsMoments rest

end

mutual

/-- The value with each moment replaced by the one that is received. -/
def received : Value → Value
  | dateTime t => .dateTime t.received
  | list items => .list (itemsReceived items)
  | v => v

/-- The items with each moment replaced by the one that is received. -/
def itemsReceived : List Value → List Value
  | [] => []
  | v :: rest => received v :: itemsReceived rest

end

mutual

/-- A value is received as it was sent just if each of its leap seconds ends a minute. -/
theorem received_eq_self_iff (v : Value) : v.received = v ↔ ∀ t ∈ v.moments, t.LeapEndsMinute := by
  cases v with
  | dateTime t => simp [received, moments, Timestamp.received_eq_self_iff]
  | list items => simp [received, moments, itemsReceived_eq_self_iff items]
  | _ => simp [received, moments]

theorem itemsReceived_eq_self_iff (items : List Value) :
    itemsReceived items = items ↔ ∀ t ∈ itemsMoments items, t.LeapEndsMinute := by
  cases items with
  | nil => simp [itemsReceived, itemsMoments]
  | cons v rest =>
    rw [itemsReceived, itemsMoments, List.cons.injEq, received_eq_self_iff v, itemsReceived_eq_self_iff rest,
      List.forall_mem_append]

end

/-- The value has no decimals, and its strings belong to no other kind. -/
inductive Transmissible : Value → Prop where
  | null : Transmissible .null
  | bool (b : Bool) : Transmissible (.bool b)
  | int (i : Int64) : Transmissible (.int i)
  /-- The text of a moment or of an identifier is received as such. -/
  | string {s : String} : Timestamp.ofRelaxed? s.toList = none → Uuid.ofChars? s.toList = none →
      Transmissible (.string s)
  | dateTime (t : Timestamp) : Transmissible (.dateTime t)
  | uuid (u : Uuid) : Transmissible (.uuid u)
  | list {items : List Value} : (∀ v ∈ items, Transmissible v) → Transmissible (.list items)

/-- The document is spelled by the value's text, stands for what is received in its place and is nested as deep. -/
structure Carries (j : Json) (v : Value) : Prop where
  spells : Json.Spells v.toJsonChars j
  value : ofTree? j = some v.received
  depth : j.depth = v.depth

/-! ### Texts and numbers -/

theorem ofText_of_isTimestamp {s : String} {t : Timestamp} (h : Timestamp.ofRelaxed? s.toList = some t) :
    ofText s = .dateTime t := by
  rw [ofText, h]

theorem ofText_of_isUuid {s : String} {u : Uuid} (ht : Timestamp.ofRelaxed? s.toList = none)
    (hu : Uuid.ofChars? s.toList = some u) : ofText s = .uuid u := by
  simp only [ofText, ht, hu]

theorem ofText_of_isPlain {s : String} (ht : Timestamp.ofRelaxed? s.toList = none)
    (hu : Uuid.ofChars? s.toList = none) : ofText s = .string s := by
  simp only [ofText, ht, hu]

/-- A value that is written as a string is carried by it, if the string is read as what is received. -/
theorem carries_string {s : String} {v : Value} (htext : ofText s = v.received)
    (hchars : v.toJsonChars = Json.quoteChars s.toList) (hdepth : v.depth = 0) : Carries (.string (some s)) v where
  spells := by
    rw [hchars]
    simpa using Json.spells_string s.toList
  value := by rw [ofTree?, Option.map_some, htext]
  depth := hdepth.symm

theorem ofNumber?_ofInt (i : Int64) : ofNumber? (Json.Number.ofInt i.toInt) = some (.int i) := by
  have hge : Int64.minValue.toInt ≤ i.toInt := Int64.minValue_le_toInt i
  have hle : i.toInt ≤ Int64.maxValue.toInt := Int64.toInt_le i
  have hleast : Int64.minValue.toInt = -9223372036854775808 := rfl
  have hgreatest : Int64.maxValue.toInt = 9223372036854775807 := rfl
  have hsigned : (Json.Number.signedBound : Int) = 9223372036854775808 := rfl
  have hunsigned : (Json.Number.unsignedBound : Int) = 18446744073709551616 := rfl
  have hread : (Json.Number.ofInt i.toInt).integer? = some i.toInt :=
    Json.Number.integer?_ofInt (by omega) (by omega)
  simp only [ofNumber?, hread]
  rw [if_pos ⟨hge, hle⟩, Int64.ofInt_toInt]

theorem carries_int (i : Int64) : Carries (.number (Json.Number.ofInt i.toInt)) (.int i) where
  spells := by
    rw [toJsonChars, ← Json.Number.toChars_ofInt]
    exact Json.spells_number (Json.Number.wellFormed_ofInt i.toInt)
  value := by
    rw [ofTree?, ofNumber?_ofInt]
    rfl
  depth := rfl

/-! ### Lists -/

theorem itemJsonChars_eq_map (items : List Value) : itemJsonChars items = items.map toJsonChars := by
  induction items with
  | nil => rfl
  | cons v rest ih => rw [itemJsonChars, ih, List.map_cons]

/-- An array of documents carries the list of what they carry. -/
theorem carries_list {js : List Json} {items : List Value} (h : List.Forall₂ Carries js items) :
    Carries (.array js) (.list items) where
  spells := by
    rw [toJsonChars, itemJsonChars_eq_map]
    refine Json.Spells.array ?_
    rw [List.forall₂_map_left_iff]
    exact h.flip.imp fun _ _ hc => hc.spells
  value := by
    have hitems : ofTrees? js = some (itemsReceived items) := by
      induction h with
      | nil => rfl
      | cons hc _ ih => simp [ofTrees?, hc.value, ih, itemsReceived]
    rw [ofTree?, hitems, Option.map_some, received]
  depth := by
    have hitems : Json.itemsDepth js = itemsDepth items := by
      induction h with
      | nil => rfl
      | cons hc _ ih => rw [Json.itemsDepth, itemsDepth, hc.depth, ih]
    rw [Json.depth, Value.depth, hitems]

theorem exists_forall₂_carries {items : List Value} (h : ∀ v ∈ items, ∃ j, Carries j v) :
    ∃ js, List.Forall₂ Carries js items := by
  induction items with
  | nil => exact ⟨[], .nil⟩
  | cons v rest ih =>
    obtain ⟨j, hj⟩ := h v (List.mem_cons_self ..)
    obtain ⟨js, hjs⟩ := ih fun w hw => h w (List.mem_cons_of_mem v hw)
    exact ⟨j :: js, .cons hj hjs⟩

/-! ### Values -/

variable {v : Value}

/-- The text of a value spells a document that stands for what is received in its place. -/
theorem Transmissible.exists_carries (h : v.Transmissible) : ∃ j, Carries j v := by
  induction h with
  | null => exact ⟨.null, Json.spells_null, rfl, rfl⟩
  | bool b => exact ⟨.bool b, Json.spells_bool b, rfl, rfl⟩
  | int i => exact ⟨_, carries_int i⟩
  | @string s ht hu => exact ⟨_, carries_string (ofText_of_isPlain ht hu) rfl rfl⟩
  | dateTime t => exact ⟨_, carries_string (ofText_of_isTimestamp t.ofRelaxed?_toWireText) rfl rfl⟩
  | uuid u =>
    have hchars : u.toText.toList = u.toChars := by rw [Uuid.toText, String.toList_ofList]
    have htext : ofText u.toText = .uuid u :=
      ofText_of_isUuid (by rw [hchars, u.ofRelaxed?_toChars]) (by rw [hchars, u.ofChars?_toChars])
    exact ⟨_, carries_string htext (by rw [toJsonChars, hchars]) rfl⟩
  | list _ ih =>
    obtain ⟨js, hjs⟩ := exists_forall₂_carries ih
    exact ⟨.array js, carries_list hjs⟩

/-- The text of a value is read to its end, unless its lists are nested too deep. -/
theorem Transmissible.read?_toJsonText (h : v.Transmissible) :
    ofJsonText? v.toJsonText = if v.depth ≤ 127 then some v.received else none := by
  obtain ⟨j, hj⟩ := h.exists_carries
  have hread : Json.read? v.toJsonText.toList = some j := by
    rw [toJsonText, String.toList_ofList]
    exact hj.spells.read?
  simp only [ofJsonText?, hread, Option.bind_eq_bind, Option.bind_some, ofJson?, maxDepth, hj.depth, hj.value]

/-- A value whose lists are nested at most 127 deep is received, with each leap second within a minute replaced by the
second after it; deeper ones are not received. So it is received as it was sent, whatever its strings hold and its
moments are, just if each of its leap seconds ends a minute. -/
theorem ofJsonText?_toJsonText (h : v.Transmissible) :
    (ofJsonText? v.toJsonText = if v.depth ≤ 127 then some v.received else none) ∧
    (v.depth ≤ 127 →
      (ofJsonText? v.toJsonText = some v ↔ ∀ t ∈ v.moments, t.LeapEndsMinute)) := by
  refine ⟨h.read?_toJsonText, fun hdepth => ?_⟩
  rw [h.read?_toJsonText, if_pos hdepth, Option.some.injEq]
  exact v.received_eq_self_iff

/-- The last second of the year 10000, prolonged to a leap second that is half gone. -/
def lateLeapSecond : Timestamp := ⟨2933262, 86399, 1500000000, by decide, by decide, by decide, by decide⟩

theorem ofJsonText?_toJsonText_mixed :
    let v : Value := .list [.int Int64.minValue, .string "\"\\\n\x00é", .dateTime lateLeapSecond,
      .list [.uuid Uuid.nil, .null, .list []]]
    v.Transmissible ∧ v.depth ≤ 127 ∧ ofJsonText? v.toJsonText = some v := by
  intro v
  have hv : v.Transmissible := by
    refine .list fun w hw => ?_
    simp only [List.mem_cons, List.not_mem_nil, or_false] at hw
    rcases hw with rfl | rfl | rfl | rfl
    · exact .int _
    · exact .string (by decide) (by decide)
    · exact .dateTime _
    · refine .list fun w hw => ?_
      simp only [List.mem_cons, List.not_mem_nil, or_false] at hw
      rcases hw with rfl | rfl | rfl
      · exact .uuid _
      · exact .null
      · exact .list nofun
  have hdepth : v.depth ≤ 127 := by decide
  exact ⟨hv, hdepth, ((ofJsonText?_toJsonText hv).2 hdepth).mpr (by decide)⟩

/-- The second 23:56:04 of a day in June 2024, prolonged to a leap second that is a third gone. -/
def strayLeapSecond : Timestamp := ⟨19904, 86164, 1333333333, by decide, by decide, by decide, by decide⟩

/-- The moment that a clock shows in the same way, a third into 23:56:05. -/
def nextSecond : Timestamp := ⟨19904, 86165, 333333333, by decide, by decide, by decide, by decide⟩

/-- A leap second within a minute is not received as it was sent. -/
theorem ofJsonText?_strayLeapSecond :
    let v : Value := .dateTime strayLeapSecond
    v.Transmissible ∧ v.depth ≤ 127 ∧ v.toJsonText = "\"2024-06-30T23:56:05.333333333Z\"" ∧
      ofJsonText? v.toJsonText = some (.dateTime nextSecond) ∧ ofJsonText? v.toJsonText ≠ some v := by
  intro v
  have hv : v.Transmissible := .dateTime _
  have hnext : ofJsonText? v.toJsonText = some (.dateTime nextSecond) := by
    rw [hv.read?_toJsonText, if_pos (by decide)]
    rfl
  refine ⟨hv, by decide, by decide, hnext, ?_⟩
  rw [hnext]
  simp [v, nextSecond, strayLeapSecond]

end EntityQuery.Value
