import EntityQuery.Request.Wire
import EntityQuery.Proofs.Json.Structures

/-!
# Requests are received as they are sent

What a request leaves out when it is sent is what its reader takes for left out: a literal that is missing is no empty
one, a single literal is no list of one, and neither a placement of nulls nor the bounds of a page have a value that
stands for none. So every request is received as it was sent (`QueryRequest.ofJson?_toJson`), if its bounds are sizes.
A request that was received at all has such bounds (`QueryRequest.isSized_of_parse`), so whatever text it came in,
the text that it is sent on in says the same.
-/

namespace EntityQuery

open Json (ofFields)

/-! ### Sizes -/

namespace Json

theorem unsignedBound_eq_sizeBound : Number.unsignedBound = sizeBound := rfl

theorem size?_ofNat {n : Nat} (h : n < sizeBound) : size? (ofNat n) = some n := by
  have hread : (Number.ofInt n).integer? = some (n : Int) := by
    refine Number.integer?_ofInt (by omega) ?_
    rw [unsignedBound_eq_sizeBound]
    omega
  rw [ofNat_eq, size?, hread]
  simp

/-- What is read as a size is one. -/
theorem lt_sizeBound_of_size? {j : Json} {n : Nat} (h : size? j = some n) : n < sizeBound := by
  cases j with
  | number m =>
    obtain ⟨i, hi, hn⟩ := Option.bind_eq_some_iff.mp (show m.integer? >>= _ = some n from h)
    rw [Option.ite_none_right_eq_some] at hn
    obtain ⟨hpos, hn⟩ := hn
    have hlt : i < Number.unsignedBound := by
      simp only [Number.integer?, Option.ite_none_right_eq_some] at hi
      obtain ⟨-, hi⟩ := hi
      split at hi
      · obtain ⟨-, hi⟩ := Option.ite_none_right_eq_some.mp hi
        have hneg := Option.some.inj hi
        have hbound : 0 < Number.unsignedBound := by decide
        omega
      · obtain ⟨hbound, hi⟩ := Option.ite_none_right_eq_some.mp hi
        have hvalue := Option.some.inj hi
        omega
    have htoNat := Option.some.inj hn
    rw [unsignedBound_eq_sizeBound] at hlt
    omega
  | _ => cases h

end Json

/-! ### Names of choices -/

theorem Family.lookup_name (f : Family) : Family.wireNames.lookup f.name = some f := by
  cases f <;> decide

theorem FilterOperator.lookup_name (op : FilterOperator) : FilterOperator.wireNames.lookup op.name = some op := by
  cases op <;> decide

theorem NullsOrder.lookup_wireName (n : NullsOrder) : NullsOrder.wireNames.lookup n.wireName = some n := by
  cases n <;> decide

/-! ### Filters -/

namespace FilterSpec

/-- The fields of a filter, in the order of their names. -/
def fields (f : FilterSpec) : List (String × Option Json) :=
  [("propertyName", some (.ofString f.propertyName)), ("declaredType", some (.ofString f.declaredType.name)),
    ("operator", some (.ofString f.operator.name)), ("value", f.value.map Json.ofString),
    ("values", if f.values = [] then none else some (.array (f.values.map Json.ofString)))]

theorem toJson_eq_ofFields (f : FilterSpec) : f.toJson = ofFields f.fields := by
  rw [toJson, ofFields, fields]
  cases f.value <;> cases f.values <;> rfl

/-- A filter is read as it is written. -/
theorem ofJson?_toJson (f : FilterSpec) : ofJson? f.toJson = some f := by
  have hfields : Json.fields? Json.jsonStyle false fieldNames (ofFields f.fields) = some (f.fields.map Prod.snd) :=
    Json.fields?_ofFields Json.jsonStyle false (by decide : fieldNames.Nodup)
  have hvalue : Json.defaulted? (Json.nullable? Json.text?) none (f.value.map Json.ofString) = some f.value :=
    Json.defaulted?_nullable?_map (fun _ _ => rfl) nofun
  have hvalues : Json.defaulted? (Json.list? Json.text?) []
      (if f.values = [] then none else some (.array (f.values.map Json.ofString))) = some f.values := by
    by_cases hempty : f.values = []
    · simp [hempty, Json.defaulted?]
    · have hlist : Json.list? Json.text? (.array (f.values.map Json.ofString)) = some f.values :=
        Json.list?_map fun s _ => Json.text?_ofString s
      simp [hempty, hlist]
  rw [toJson_eq_ofFields, ofJson?, hfields]
  simp [fields, Json.choice?_ofString (Family.lookup_name _), Json.choice?_ofString (FilterOperator.lookup_name _),
    hvalue, hvalues]

theorem wellFormed_toJson (f : FilterSpec) : f.toJson.WellFormed := by
  rw [toJson_eq_ofFields]
  refine .ofFields fun g hg j hj => ?_
  simp only [fields, List.mem_cons, List.not_mem_nil, or_false] at hg
  rcases hg with rfl | rfl | rfl | rfl | rfl
  · cases hj; exact .string _
  · cases hj; exact .string _
  · cases hj; exact .string _
  · obtain ⟨s, -, rfl⟩ := Option.map_eq_some_iff.mp hj
    exact .string s
  · obtain ⟨-, hj⟩ := Option.ite_none_left_eq_some.mp hj
    cases hj
    refine .array fun j hj => ?_
    obtain ⟨s, -, rfl⟩ := List.mem_map.mp hj
    exact .string s

end FilterSpec

/-! ### Sort keys -/

namespace SortKey

/-- The fields of a sort key, in the order of their names. -/
def fields (k : SortKey) : List (String × Option Json) :=
  [("propertyName", some (.ofString k.propertyName)), ("descending", some (.bool k.descending)),
    ("nulls", k.nulls.map fun n => .ofString n.wireName)]

theorem toJson_eq_ofFields (k : SortKey) : k.toJson = ofFields k.fields := by
  rw [toJson, ofFields, fields]
  cases k.nulls <;> rfl

/-- A sort key is read as it is written. -/
theorem ofJson?_toJson (k : SortKey) : ofJson? k.toJson = some k := by
  have hfields : Json.fields? Json.jsonStyle false fieldNames (ofFields k.fields) = some (k.fields.map Prod.snd) :=
    Json.fields?_ofFields Json.jsonStyle false (by decide : fieldNames.Nodup)
  have hnulls : Json.defaulted? (Json.nullable? (Json.choice? Json.jsonStyle NullsOrder.wireNames)) none
      (k.nulls.map fun n => .ofString n.wireName) = some k.nulls :=
    Json.defaulted?_nullable?_map (fun n _ => Json.choice?_ofString n.lookup_wireName) nofun
  rw [toJson_eq_ofFields, ofJson?, hfields]
  simp [fields, hnulls]

theorem wellFormed_toJson (k : SortKey) : k.toJson.WellFormed := by
  rw [toJson_eq_ofFields]
  refine .ofFields fun g hg j hj => ?_
  simp only [fields, List.mem_cons, List.not_mem_nil, or_false] at hg
  rcases hg with rfl | rfl | rfl
  · cases hj; exact .string _
  · cases hj; exact .bool _
  · obtain ⟨n, -, rfl⟩ := Option.map_eq_some_iff.mp hj
    exact .string _

end SortKey

theorem SortSpec.ofJson?_toJson (s : SortSpec) : SortSpec.ofJson? s.toJson = some s :=
  Json.list?_map fun k _ => k.ofJson?_toJson

theorem SortSpec.wellFormed_toJson (s : SortSpec) : s.toJson.WellFormed := by
  refine .array fun j hj => ?_
  obtain ⟨k, -, rfl⟩ := List.mem_map.mp hj
  exact k.wellFormed_toJson

/-! ### Requests -/

namespace QueryRequest

/-- The bounds of the page are sizes. -/
structure IsSized (r : QueryRequest) : Prop where
  skip_lt : ∀ n ∈ r.skip, n < sizeBound
  take_lt : ∀ n ∈ r.take, n < sizeBound

/-- The fields of a request, in the order of their names. -/
def fields (r : QueryRequest) : List (String × Option Json) :=
  [("filters", some (.array (r.filters.map FilterSpec.toJson))), ("sort", some (SortSpec.toJson r.sort)),
    ("skip", r.skip.map Json.ofNat), ("take", r.take.map Json.ofNat)]

variable {r : QueryRequest}

theorem toJson_eq_ofFields (r : QueryRequest) : r.toJson = ofFields r.fields := by
  rw [toJson, ofFields, fields]
  cases r.skip <;> cases r.take <;> rfl

/-- A request is read as it is written. -/
theorem ofJson?_toJson (h : r.IsSized) : ofJson? r.toJson = some r := by
  have hfields : Json.fields? Json.jsonStyle false fieldNames (ofFields r.fields) = some (r.fields.map Prod.snd) :=
    Json.fields?_ofFields Json.jsonStyle false (by decide : fieldNames.Nodup)
  have hfilters : Json.list? FilterSpec.ofJson? (.array (r.filters.map FilterSpec.toJson)) = some r.filters :=
    Json.list?_map fun f _ => f.ofJson?_toJson
  have hskip : Json.defaulted? (Json.nullable? Json.size?) none (r.skip.map Json.ofNat) = some r.skip :=
    Json.defaulted?_nullable?_map (fun n hn => Json.size?_ofNat (h.skip_lt n hn)) nofun
  have htake : Json.defaulted? (Json.nullable? Json.size?) none (r.take.map Json.ofNat) = some r.take :=
    Json.defaulted?_nullable?_map (fun n hn => Json.size?_ofNat (h.take_lt n hn)) nofun
  rw [toJson_eq_ofFields, ofJson?, hfields]
  simp [fields, hfilters, SortSpec.ofJson?_toJson, hskip, htake]

theorem wellFormed_toJson (r : QueryRequest) : r.toJson.WellFormed := by
  have hsize : ∀ n, (Json.ofNat n).WellFormed := by
    intro n
    rw [Json.ofNat_eq]
    exact .number (Json.Number.wellFormed_ofInt n)
  rw [toJson_eq_ofFields]
  refine .ofFields fun g hg j hj => ?_
  simp only [fields, List.mem_cons, List.not_mem_nil, or_false] at hg
  rcases hg with rfl | rfl | rfl | rfl
  · cases hj
    refine .array fun j hj => ?_
    obtain ⟨f, -, rfl⟩ := List.mem_map.mp hj
    exact f.wellFormed_toJson
  · cases hj; exact SortSpec.wellFormed_toJson r.sort
  · obtain ⟨n, -, rfl⟩ := Option.map_eq_some_iff.mp hj
    exact hsize n
  · obtain ⟨n, -, rfl⟩ := Option.map_eq_some_iff.mp hj
    exact hsize n

/-- A request is received as it was sent. -/
theorem parse_toJsonText (explain : String → String) (h : r.IsSized) : parse explain r.toJsonText = .ok r := by
  have hread : Json.read? r.toJsonText.toList = some r.toJson := by
    rw [toJsonText, Json.toText, String.toList_ofList]
    exact Json.read?_toChars r.wellFormed_toJson
  simp only [parse, hread, Option.bind_eq_bind, Option.bind_some, ofJson?_toJson h]

theorem lt_sizeBound_of_defaulted? {o : Option Json} {size : Option Nat}
    (h : Json.defaulted? (Json.nullable? Json.size?) none o = some size) : ∀ n ∈ size, n < sizeBound := by
  intro n hn
  cases hn
  cases o with
  | none => cases h
  | some j =>
    rw [Json.defaulted?, Json.nullable?.eq_def] at h
    split at h
    · cases h
    · obtain ⟨m, hm, hmn⟩ := Option.map_eq_some_iff.mp h
      cases hmn
      exact Json.lt_sizeBound_of_size? hm

/-- The bounds of the page of a request that was received are sizes. -/
theorem isSized_of_parse {explain : String → String} {s : String} (h : parse explain s = .ok r) : r.IsSized := by
  rw [parse] at h
  split at h
  · rename_i r' hread
    obtain rfl := Except.ok.inj h
    obtain ⟨j, -, hj⟩ := Option.bind_eq_some_iff.mp hread
    rw [ofJson?] at hj
    obtain ⟨values, -, hj⟩ := Option.bind_eq_some_iff.mp hj
    split at hj
    · obtain ⟨filters, -, hj⟩ := Option.bind_eq_some_iff.mp hj
      obtain ⟨sort, -, hj⟩ := Option.bind_eq_some_iff.mp hj
      obtain ⟨skip, hskip, hj⟩ := Option.bind_eq_some_iff.mp hj
      obtain ⟨take, htake, hj⟩ := Option.bind_eq_some_iff.mp hj
      obtain rfl := Option.some.inj hj
      exact ⟨lt_sizeBound_of_defaulted? hskip, lt_sizeBound_of_defaulted? htake⟩
    · cases hj
  · cases h

/-- Every request is received as it was sent, no two requests are sent in the same text, and a request that was received
in any text is sent on in a text that is received and sent on again as it is. It does not matter how texts that are no
requests are explained. -/
theorem transmission_faithful (explain : String → String) :
    (∀ r : QueryRequest, r.IsSized → parse explain r.toJsonText = .ok r) ∧
      (∀ r r' : QueryRequest, r.IsSized → r'.IsSized → r.toJsonText = r'.toJsonText → r = r') ∧
      ∀ s t : String, (parse explain s).map toJsonText = .ok t → (parse explain t).map toJsonText = .ok t := by
  refine ⟨fun r h => parse_toJsonText explain h, ?_, ?_⟩
  · intro r r' h h' htext
    have hread : (Except.ok r : Result QueryRequest) = .ok r' := by
      rw [← parse_toJsonText explain h, htext, parse_toJsonText explain h']
    exact Except.ok.inj hread
  · intro s t h
    cases hread : parse explain s with
    | error e =>
      rw [hread] at h
      cases h
    | ok r =>
      rw [hread] at h
      obtain rfl := Except.ok.inj h
      rw [parse_toJsonText explain (isSized_of_parse hread)]
      rfl

theorem transmission_faithful_similar :
    let r : QueryRequest :=
      ⟨[⟨"Näm\"e", .string, .equals, some "", []⟩], [⟨"Id", true, some .last⟩], some 0, some 18446744073709551615⟩
    let r' : QueryRequest := ⟨[⟨"Näm\"e", .string, .equals, none, [""]⟩], [⟨"Id", true, none⟩], none, none⟩
    let s := Json.toText (.object [(some "take", .ofNat 5), (some "skip", .null)])
    let t := toJsonText ⟨[], [], none, some 5⟩
    r.IsSized ∧ r'.IsSized ∧ ofJsonText r.toJsonText = .ok r ∧ r.toJsonText ≠ r'.toJsonText ∧
      (ofJsonText s).map toJsonText = .ok t ∧ (ofJsonText t).map toJsonText = .ok t := by
  intro r r' s t
  have h : r.IsSized := ⟨by simp [r, sizeBound], by simp [r, sizeBound]⟩
  have h' : r'.IsSized := ⟨nofun, nofun⟩
  have hs : (ofJsonText s).map toJsonText = .ok t := by
    have hread : Json.read? s.toList = some (.object [(some "take", .ofNat 5), (some "skip", .null)]) := by
      simp only [s, Json.toText, String.toList_ofList]
      refine Json.read?_toChars (.object (by decide) fun e he => ?_)
      simp only [List.mem_cons, List.not_mem_nil, or_false] at he
      rcases he with rfl | rfl
      · rw [Json.ofNat_eq]
        exact .number (Json.Number.wellFormed_ofInt 5)
      · exact .null
    rw [ofJsonText, parse, hread]
    rfl
  obtain ⟨hreceived, hapart, hagain⟩ := transmission_faithful QueryError.elide
  exact ⟨h, h', hreceived r h, fun htext => absurd (hapart r r' h h' htext) (by decide), hs, hagain s t hs⟩

end QueryRequest

end EntityQuery
