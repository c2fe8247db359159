import EntityQuery.Declaration
import Mathlib.Data.List.Duplicate
import Mathlib.Data.List.Induction
import Mathlib.Data.List.Nodup

/-!
# The properties of a declared structure

What the annotations of a declaration say is read off them without running through them: of several texts under
one key the last one counts (`lastText`), and one that leaves a field out is enough. By this a field has a name
(`DeclaredField.propertyName`), and the properties of a structure are those of its exposed fields, the ones that
are not left out.

A repeated name among the exposed fields is all that can be wrong with a declaration whose annotations mean
something. Otherwise every exposed field is a property of its own, in the order of the declaration, and is found
under its name (`Declaration.toEntity_exposes`): no registration takes the place of an earlier one, since the
names are different.
-/

namespace EntityQuery

open Text (NamingRule)

/-! ### Annotations that mean something -/

/-- What may stand at a structure: its name, or a naming convention that exists. -/
inductive Annotation.OnStructure : Annotation → Prop where
  | name (s : String) : OnStructure ⟨"name", some s⟩
  | rule {s : String} {r : NamingRule} : NamingRule.ofName? s = some r → OnStructure ⟨"rename_all", some s⟩

/-- What may stand at a field: that it is left out, or the name of its property. -/
inductive Annotation.OnField : Annotation → Prop where
  | skip : OnField ⟨"skip", none⟩
  | rename (s : String) : OnField ⟨"rename", some s⟩

/-- The declaration is one of a structure with the given fields, and all annotations mean something. -/
structure Declaration.IsValid (d : Declaration) (fs : List DeclaredField) : Prop where
  generic : d.generic = false
  body : d.body = .fields fs
  annotations : ∀ a ∈ d.annotations, a.OnStructure
  fieldAnnotations : ∀ f ∈ fs, ∀ a ∈ f.annotations, a.OnField

/-! ### What annotations say -/

/-- The last text under a key. -/
def lastText (key : String) (as : List Annotation) : Option String :=
  as.reverse.findSome? fun a => if a.key = key then a.text else none

/-- The naming convention of a structure. -/
def Declaration.rule (d : Declaration) : NamingRule :=
  ((lastText "rename_all" d.annotations).bind NamingRule.ofName?).getD .pascal

/-- The name of the entity of a structure. -/
def Declaration.entityName (d : Declaration) : String := (lastText "name" d.annotations).getD d.identifier

namespace DeclaredField

/-- Whether a field has a property. -/
def isExposed (f : DeclaredField) : Bool := !f.annotations.any fun a => a.key == "skip"

/-- The name of the property of a field: the one it is given, or its own by the naming convention. -/
def propertyName (rule : NamingRule) (f : DeclaredField) : String :=
  (lastText "rename" f.annotations).getD (rule.apply (plainIdentifier f.identifier))

/-- The property of a field, which reads that field. -/
def property (rule : NamingRule) (f : DeclaredField) : PropertyDecl :=
  ⟨f.propertyName rule, f.storage.propertyType f.family, f.identifier⟩

end DeclaredField

/-- The fields that have a property. -/
def exposed (fs : List DeclaredField) : List DeclaredField := fs.filter DeclaredField.isExposed

theorem lastText_concat (key : String) (as : List Annotation) (a : Annotation) :
    lastText key (as ++ [a]) = (if a.key = key then a.text else none).or (lastText key as) := by
  rw [lastText, List.reverse_append, List.reverse_singleton, List.singleton_append, List.findSome?_cons]
  split <;> simp_all [lastText]

/-- Annotations of a structure set what they say. -/
theorem foldlM_declarationSettings {as : List Annotation} (h : ∀ a ∈ as, a.OnStructure) :
    as.foldlM DeclarationSettings.add {} =
      .ok ⟨lastText "name" as, ((lastText "rename_all" as).bind NamingRule.ofName?).getD .pascal⟩ := by
  induction as using List.reverseRecOn with
  | nil => rfl
  | append_singleton as a ih =>
    rw [List.foldlM_append, ih fun b hb => h b (List.mem_append_left [a] hb), lastText_concat, lastText_concat]
    cases h a (by simp) with
    | name s => simp [DeclarationSettings.add, Annotation.needText, bind, Except.bind, pure, Except.pure]
    | rule hr => simp [DeclarationSettings.add, Annotation.needText, bind, Except.bind, pure, Except.pure, hr]

/-- Annotations of a field set what they say. -/
theorem foldlM_fieldSettings {as : List Annotation} (h : ∀ a ∈ as, a.OnField) (name : String) :
    as.foldlM FieldSettings.add { name } =
      .ok ⟨(lastText "rename" as).getD name, as.any fun a => a.key == "skip"⟩ := by
  induction as using List.reverseRecOn with
  | nil => rfl
  | append_singleton as a ih =>
    rw [List.foldlM_append, ih fun b hb => h b (List.mem_append_left [a] hb), lastText_concat]
    cases h a (by simp) with
    | skip => simp [FieldSettings.add, bind, Except.bind, pure, Except.pure]
    | rename s => simp [FieldSettings.add, Annotation.needText, bind, Except.bind, pure, Except.pure]

theorem DeclaredField.property?_eq {f : DeclaredField} (h : ∀ a ∈ f.annotations, a.OnField) (rule : NamingRule) :
    f.property? rule = .ok (if f.isExposed then some (f.property rule) else none) := by
  rw [property?, foldlM_fieldSettings h]
  cases hskip : f.annotations.any fun a => a.key == "skip" <;>
    simp [isExposed, hskip, property, propertyName, bind, Except.bind]

/-! ### The check for repeated names -/

/-- Names of fields are new if they are all different and none has been seen before. -/
def NewNames (rule : NamingRule) (seen : List String) (fs : List DeclaredField) : Prop :=
  (fs.map (·.propertyName rule)).Nodup ∧ ∀ f ∈ fs, f.propertyName rule ∉ seen

/-- A field is the first one whose name is not new: the names of the fields before it are, and its own is one of
those, or has been seen before. -/
def RepeatsFirst (rule : NamingRule) (seen : List String) (fs : List DeclaredField) (f : DeclaredField) : Prop :=
  ∃ before after, fs = before ++ f :: after ∧ NewNames rule seen before ∧
    (f.propertyName rule ∈ seen ∨ f.propertyName rule ∈ before.map (·.propertyName rule))

variable {rule : NamingRule} {seen : List String} {fs : List DeclaredField} {f : DeclaredField}

theorem newNames_nil : NewNames rule seen [] := ⟨List.nodup_nil, nofun⟩

theorem newNames_cons (hf : f.propertyName rule ∉ seen) (h : NewNames rule (f.propertyName rule :: seen) fs) :
    NewNames rule seen (f :: fs) := by
  obtain ⟨hnodup, hnew⟩ := h
  refine ⟨?_, ?_⟩
  · rw [List.map_cons, List.nodup_cons]
    refine ⟨?_, hnodup⟩
    intro hmem
    obtain ⟨g, hg, hname⟩ := List.mem_map.mp hmem
    exact hnew g hg (by simp [hname])
  · intro g hg
    rcases List.mem_cons.mp hg with rfl | hg
    · exact hf
    · exact fun hseen => hnew g hg (List.mem_cons_of_mem _ hseen)

theorem RepeatsFirst.cons {g : DeclaredField} (hf : f.propertyName rule ∉ seen)
    (h : RepeatsFirst rule (f.propertyName rule :: seen) fs g) : RepeatsFirst rule seen (f :: fs) g := by
  obtain ⟨before, after, hsplit, hnew, hrepeated⟩ := h
  refine ⟨f :: before, after, by rw [hsplit, List.cons_append], newNames_cons hf hnew, ?_⟩
  rcases hrepeated with hrepeated | hrepeated
  · rcases List.mem_cons.mp hrepeated with heq | hseen
    · right
      simp [heq]
    · exact .inl hseen
  · right
    simp [hrepeated]

/-- The name that a field repeats is there twice. -/
theorem RepeatsFirst.duplicate (h : RepeatsFirst rule [] fs f) :
    (fs.map (·.propertyName rule)).Duplicate (f.propertyName rule) := by
  obtain ⟨before, after, rfl, -, hrepeated⟩ := h
  rcases hrepeated with hrepeated | hrepeated
  · cases hrepeated
  · rw [List.map_append, List.map_cons, List.duplicate_iff_sublist]
    exact (List.singleton_sublist.mpr hrepeated).append (List.singleton_sublist.mpr (List.mem_cons_self ..))

/-- An exposed field is reported if its name has been seen, and is the next property otherwise. -/
theorem propertiesAfter_cons (h : ∀ a ∈ f.annotations, a.OnField) (rule : NamingRule) (seen : List String)
    (rest : List DeclaredField) :
    propertiesAfter rule seen (f :: rest) =
      if f.isExposed then
        if f.propertyName rule ∈ seen then .error (.duplicateProperty (f.propertyName rule))
        else (propertiesAfter rule (f.propertyName rule :: seen) rest).map (f.property rule :: ·)
      else propertiesAfter rule seen rest := by
  rw [propertiesAfter, DeclaredField.property?_eq h]
  by_cases hexposed : f.isExposed = true
  · simp only [hexposed, if_true]
    rfl
  · simp only [hexposed]
    rfl

/-- Fields have properties if the names of the exposed ones are new. Otherwise the first name that is not is
reported. -/
theorem propertiesAfter_cases (h : ∀ f ∈ fs, ∀ a ∈ f.annotations, a.OnField) (rule : NamingRule)
    (seen : List String) :
    (NewNames rule seen (exposed fs) ∧
        propertiesAfter rule seen fs = .ok ((exposed fs).map (·.property rule))) ∨
      ∃ f, RepeatsFirst rule seen (exposed fs) f ∧
        propertiesAfter rule seen fs = .error (.duplicateProperty (f.propertyName rule)) := by
  induction fs generalizing seen with
  | nil => exact .inl ⟨newNames_nil, rfl⟩
  | cons f rest ih =>
    have hrest := ih fun g hg => h g (List.mem_cons_of_mem f hg)
    rw [propertiesAfter_cons (h f (List.mem_cons_self ..))]
    by_cases hexposed : f.isExposed = true
    · rw [if_pos hexposed, exposed, List.filter_cons_of_pos hexposed, ← exposed]
      by_cases hseen : f.propertyName rule ∈ seen
      · rw [if_pos hseen]
        exact .inr ⟨f, ⟨[], exposed rest, rfl, newNames_nil, .inl hseen⟩, rfl⟩
      · rw [if_neg hseen]
        rcases hrest (f.propertyName rule :: seen) with ⟨hnew, hok⟩ | ⟨g, hg, herror⟩
        · rw [hok]
          exact .inl ⟨newNames_cons hseen hnew, rfl⟩
        · rw [herror]
          exact .inr ⟨g, hg.cons hseen, rfl⟩
    · rw [if_neg hexposed, exposed, List.filter_cons_of_neg hexposed, ← exposed]
      exact hrest seen

/-- Fields that are left out make no difference. -/
theorem propertiesAfter_exposed (h : ∀ f ∈ fs, ∀ a ∈ f.annotations, a.OnField) (rule : NamingRule)
    (seen : List String) : propertiesAfter rule seen (exposed fs) = propertiesAfter rule seen fs := by
  induction fs generalizing seen with
  | nil => rfl
  | cons f rest ih =>
    have hf := h f (List.mem_cons_self ..)
    have hrest := ih fun g hg => h g (List.mem_cons_of_mem f hg)
    rw [propertiesAfter_cons hf]
    by_cases hexposed : f.isExposed = true
    · rw [exposed, List.filter_cons_of_pos hexposed, ← exposed, propertiesAfter_cons hf, hrest, hrest]
    · rw [if_neg hexposed, exposed, List.filter_cons_of_neg hexposed, ← exposed, hrest]

/-! ### Registration -/

namespace Metadata

variable {ρ : Type}

theorem place_of_notMem {p : Property ρ} {ps : List (Property ρ)} (h : p.name ∉ ps.map Property.name) :
    place p ps = ps ++ [p] := by
  induction ps with
  | nil => rfl
  | cons q rest ih =>
    rw [List.map_cons, List.mem_cons, not_or] at h
    rw [place, if_neg (Ne.symm h.1), ih h.2, List.cons_append]

/-- Properties with names of their own are registered one behind the other. -/
theorem properties_foldl_register {m : Metadata ρ} {ps : List (Property ρ)}
    (h : (m.names ++ ps.map Property.name).Nodup) :
    (ps.foldl register m).properties = m.properties ++ ps ∧ (ps.foldl register m).name = m.name := by
  induction ps generalizing m with
  | nil => simp
  | cons p rest ih =>
    have hnew : p.name ∉ m.names := by
      rw [List.map_cons, List.nodup_append] at h
      exact fun hmem => h.2.2 _ hmem _ (List.mem_cons_self ..) rfl
    have hplaced : (m.register p).properties = m.properties ++ [p] := place_of_notMem hnew
    have hnodup : ((m.register p).names ++ rest.map Property.name).Nodup := by
      simpa [names, hplaced] using h
    rw [List.foldl_cons, (ih hnodup).1, (ih hnodup).2, hplaced, name_register]
    simp

/-- Every property is found under its name. -/
theorem resolve_of_mem {m : Metadata ρ} {p : Property ρ} (h : p ∈ m.properties) : m.resolve p.name = .ok p := by
  rw [resolve_eq_ok_iff, find?]
  cases hfind : m.properties.find? fun q => q.name == p.name with
  | none => simpa using List.find?_eq_none.mp hfind p h
  | some q =>
    have hname : q.name = p.name := by simpa using List.find?_some hfind
    rw [List.inj_on_of_nodup_map m.nodup (List.mem_of_find?_eq_some hfind) h hname]

end Metadata

/-- The properties of a declared type are those that are listed, if their names are different. -/
theorem EntityDecl.properties_metadata {e : EntityDecl} (h : (e.properties.map PropertyDecl.name).Nodup) :
    e.metadata.properties = e.properties.map PropertyDecl.toProperty ∧ e.metadata.name = e.name := by
  have hnodup : ((e.properties.map PropertyDecl.toProperty).map Property.name).Nodup := by
    rwa [List.map_map]
  have hregister := Metadata.properties_foldl_register (m := { name := e.name }) hnodup
  rwa [List.foldl_map] at hregister

namespace Declaration

/-- A declaration that means something becomes the entity of its exposed fields, or a name is repeated. -/
theorem toEntity_cases {d : Declaration} (h : d.IsValid fs) :
    (NewNames d.rule [] (exposed fs) ∧
        d.toEntity = .ok ⟨d.entityName, (exposed fs).map (·.property d.rule), []⟩) ∨
      ∃ f, RepeatsFirst d.rule [] (exposed fs) f ∧
        d.toEntity = .error (.duplicateProperty (f.propertyName d.rule)) := by
  have hfields : d.fields = .ok fs := by simp [fields, h.generic, h.body]
  rw [toEntity, hfields, foldlM_declarationSettings h.annotations]
  simp only [bind, Except.bind]
  rcases propertiesAfter_cases h.fieldAnnotations d.rule [] with ⟨hnew, hok⟩ | ⟨f, hf, herror⟩
  · rw [rule] at hok
    rw [hok]
    exact .inl ⟨hnew, rfl⟩
  · rw [rule] at herror
    rw [herror]
    exact .inr ⟨f, hf, rfl⟩

/-- The entity of a declaration that means something is missing exactly if two exposed fields have the same name,
and the first name that is repeated is the fault. Otherwise the properties are those of the exposed fields, in
their order, and each is found under its name and reads its own field. Fields that are left out make no difference
to either. -/
theorem toEntity_exposes {d : Declaration} (h : d.IsValid fs) :
    ((∃ e, d.toEntity = .error e) ↔ ¬((exposed fs).map (·.propertyName d.rule)).Nodup) ∧
      (∀ e, d.toEntity = .error e →
        ∃ f, RepeatsFirst d.rule [] (exposed fs) f ∧ e = .duplicateProperty (f.propertyName d.rule)) ∧
      (∀ entity, d.toEntity = .ok entity →
        entity.metadata.name = d.entityName ∧
          entity.metadata.properties = (exposed fs).map (fun f => (f.property d.rule).toProperty) ∧
          ∀ f ∈ exposed fs, entity.metadata.resolve (f.propertyName d.rule) =
            .ok ⟨f.propertyName d.rule, f.storage.propertyType f.family, Record.field f.identifier⟩) ∧
      ({ d with body := .fields (exposed fs) } : Declaration).toEntity = d.toEntity := by
  refine ⟨?_, ?_, ?_, ?_⟩
  · rcases toEntity_cases h with ⟨hnew, hok⟩ | ⟨f, hf, herror⟩
    · simp [hok, hnew.1]
    · simp [herror, hf.duplicate.not_nodup]
  · intro e he
    rcases toEntity_cases h with ⟨-, hok⟩ | ⟨f, hf, herror⟩
    · cases hok.symm.trans he
    · exact ⟨f, hf, (Except.error.inj (herror.symm.trans he)).symm⟩
  · intro entity hentity
    rcases toEntity_cases h with ⟨hnew, hok⟩ | ⟨f, hf, herror⟩
    · obtain rfl := Except.ok.inj (hok.symm.trans hentity)
      obtain ⟨hproperties, hname⟩ := EntityDecl.properties_metadata
        (e := ⟨d.entityName, (exposed fs).map (·.property d.rule), []⟩) (by rw [List.map_map]; exact hnew.1)
      refine ⟨hname, by rw [hproperties, List.map_map]; rfl, ?_⟩
      intro f hf
      refine Metadata.resolve_of_mem (p := (f.property d.rule).toProperty) ?_
      rw [hproperties]
      exact List.mem_map_of_mem (List.mem_map_of_mem hf)
    · cases herror.symm.trans hentity
  · have hfields : d.fields = .ok fs := by simp [fields, h.generic, h.body]
    have hexposed : ({ d with body := .fields (exposed fs) } : Declaration).fields = .ok (exposed fs) := by
      simp [fields, h.generic]
    rw [toEntity, toEntity, hfields, hexposed, foldlM_declarationSettings h.annotations]
    simp only [bind, Except.bind, propertiesAfter_exposed h.fieldAnnotations]

/-- The fields of a song: its genre, which has the name of a reserved word, its label, and two for how often it was
played, of which the second one is annotated as given. -/
def songFields (annotations : List Annotation) : List DeclaredField :=
  [⟨"r#type", .string, .one, []⟩, ⟨"record_label", .string, .one, [⟨"rename", some "Label"⟩]⟩,
    ⟨"play_count", .integer, .atMostOne, []⟩, ⟨"playCount", .integer, .one, annotations⟩]

/-- A song whose properties are named in camel case. -/
def song (annotations : List Annotation) : Declaration where
  identifier := "Song"
  annotations := [⟨"rename_all", some "camelCase"⟩, ⟨"name", some "Track"⟩]
  body := .fields (songFields annotations)

theorem isValid_song (annotations : List Annotation) (h : ∀ a ∈ annotations, a.OnField) :
    (song annotations).IsValid (songFields annotations) where
  generic := rfl
  body := rfl
  annotations a ha := by
    simp only [song, List.mem_cons, List.not_mem_nil, or_false] at ha
    rcases ha with rfl | rfl
    · exact .rule (r := .camel) rfl
    · exact .name "Track"
  fieldAnnotations f hf a ha := by
    simp only [songFields, List.mem_cons, List.not_mem_nil, or_false] at hf
    rcases hf with rfl | rfl | rfl | rfl
    · cases ha
    · obtain rfl := List.mem_singleton.mp ha
      exact .rename "Label"
    · cases ha
    · exact h a ha

/-- Both fields are called `playCount` in camel case, so one of them has to be left out. If it is, the other one has the
name and is read by it. -/
theorem toEntity_exposes_song :
    (∃ entity, (song [⟨"skip", none⟩]).toEntity = .ok entity ∧ entity.metadata.name = "Track" ∧
      entity.metadata.names = ["type", "Label", "playCount"] ∧
      entity.metadata.resolve "playCount" =
        .ok ⟨"playCount", ⟨.integer, .optional⟩, Record.field "play_count"⟩) ∧
      (song []).toEntity = .error (.duplicateProperty "playCount") := by
  constructor
  · have hvalid := isValid_song [⟨"skip", none⟩] fun a ha => by
      obtain rfl := List.mem_singleton.mp ha
      exact .skip
    obtain ⟨hfails, -, hexposes, -⟩ := toEntity_exposes hvalid
    cases hentity : (song [⟨"skip", none⟩]).toEntity with
    | error e =>
      refine absurd ?_ (hfails.mp ⟨e, hentity⟩)
      decide +kernel
    | ok entity =>
      obtain ⟨hname, hproperties, hresolve⟩ := hexposes entity hentity
      refine ⟨entity, rfl, hname, ?_, ?_⟩
      · rw [Metadata.names, hproperties]
        decide +kernel
      · exact hresolve ⟨"play_count", .integer, .atMostOne, []⟩ (by simp [songFields, exposed, DeclaredField.isExposed])
  · obtain ⟨hfails, hreport, -, -⟩ := toEntity_exposes (isValid_song [] nofun)
    obtain ⟨e, he⟩ := hfails.mpr (by decide +kernel)
    obtain ⟨f, hrepeats, rfl⟩ := hreport e he
    have hnames : (exposed (songFields [])).map (·.propertyName (song []).rule) =
        ["type", "Label", "playCount", "playCount"] := by decide +kernel
    have htwice := hrepeats.duplicate
    rw [hnames] at htwice
    have hmem := htwice.mem
    simp only [List.mem_cons, List.not_mem_nil, or_false, or_self] at hmem
    rcases hmem with hname | hname | hname
    · rw [hname] at htwice
      exact absurd htwice (by decide)
    · rw [hname] at htwice
      exact absurd htwice (by decide)
    · rw [he, hname]

end Declaration

end EntityQuery
