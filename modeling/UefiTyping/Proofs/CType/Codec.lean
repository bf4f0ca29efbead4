import UefiTyping.CType.Json
import UefiTyping.Proofs.Json.Codec

/-!
# C types read back

Every C type is recovered from its document, as long as its numbers are of the width that
documents are read with. One layer recovers a type of each kind when the decoder that it is
given recovers the types inside, and the layers are put together along the type.
-/
namespace UefiTyping.CType

open Json (Decoder)

/-- The numbers of the type are as wide as types are kept with: sizes, lengths, alignments and
offsets take 64 bits, and so do the values of enumerators, the sign included. -/
inductive FitsWords : CType → Prop
  | void : FitsWords .void
  | int {size : Nat} (signed : Bool) : size < UInt64.size → FitsWords (.int size signed)
  | float {size : Nat} : size < UInt64.size → FitsWords (.float size)
  | pointer {target : CType} : FitsWords target → FitsWords (.pointer target)
  | array {element : CType} {length : Option Nat} : FitsWords element →
      (∀ n ∈ length, n < UInt64.size) → FitsWords (.array element length)
  | struct {layout : StructType CType} : (∀ field ∈ layout.fields, FitsWords field.type) →
      (∀ field ∈ layout.fields, field.offsetBits < UInt64.size) → layout.size < UInt64.size →
      layout.alignment < UInt64.size → FitsWords (.struct layout)
  | union {layout : UnionType CType} : (∀ member ∈ layout.members, FitsWords member.type) →
      layout.size < UInt64.size → layout.alignment < UInt64.size → FitsWords (.union layout)
  | enum {layout : EnumType} :
      (∀ value ∈ layout.values,
        Int64.minValue.toInt ≤ value.2 ∧ value.2 ≤ Int64.maxValue.toInt) →
      layout.underlyingSize < UInt64.size → FitsWords (.enum layout)
  | function {signature : Signature CType} : FitsWords signature.result →
      (∀ param ∈ signature.params, FitsWords param.type) → FitsWords (.function signature)
  | synonym (name : String) {target : CType} : FitsWords target → FitsWords (.synonym name target)
  | named (name : String) : FitsWords (.named name)

/-! ## Parts of types -/

theorem recovers_size {n : Nat} (h : n < UInt64.size) : decodeSize.Recovers (.ofNat n) n :=
  Decoder.recovers_natural h

/-- A tag is written as a name, or as an absent one. -/
theorem recovers_tag (tag : Option String) :
    (Decoder.option Decoder.text).Recovers (.ofOption .ofText tag) tag :=
  Decoder.recovers_ofOption (fun _ => Json.noConfusion) fun name _ => Decoder.recovers_text name

theorem recovers_length {length : Option Nat} (h : ∀ n ∈ length, n < UInt64.size) :
    (Decoder.option decodeSize).Recovers (.ofOption .ofNat length) length :=
  Decoder.recovers_ofOption (fun _ => Json.noConfusion) fun n hn => recovers_size (h n hn)

/-- The document of a field of a struct. -/
def fieldToJson (field : Field CType) : Json :=
  .ofFields [("name", .ofText field.name), ("field_type", field.type.toJson),
    ("offset_bits", .ofNat field.offsetBits)]

/-- The document of a declared name, with its type under the given key. -/
def declarationToJson (key : String) (declared : Declared CType) : Json :=
  .ofFields [("name", .ofText declared.name), (key, declared.type.toJson)]

theorem fieldsToJson_eq_map (fields : List (Field CType)) :
    fieldsToJson fields = fields.map fieldToJson := by
  induction fields with
  | nil => rfl
  | cons field fields ih => exact congrArg (fieldToJson field :: ·) ih

theorem declaredToJson_eq_map (key : String) (declared : List (Declared CType)) :
    declaredToJson key declared = declared.map (declarationToJson key) := by
  induction declared with
  | nil => rfl
  | cons first declared ih => exact congrArg (declarationToJson key first :: ·) ih

section Layer
variable {inner : Decoder CType}

theorem recovers_field {field : Field CType} (htype : inner.Recovers field.type.toJson field.type)
    (hoffset : field.offsetBits < UInt64.size) :
    (decodeField inner).Recovers (fieldToJson field) field := by
  have hname := Decoder.recovers_text field.name
  have hoffset := recovers_size hoffset
  refine Decoder.recovers_record rfl (by simp) ?_ fun {levels} hlevels => ?_
  · simp [hname.wellSpelled, htype.wellSpelled, hoffset.wellSpelled]
  · simp only [List.forall_mem_cons] at hlevels
    obtain ⟨hname', htype', hoffset', -⟩ := hlevels
    simp [hname.decode_eq hname', htype.decode_eq htype', hoffset.decode_eq hoffset']

theorem recovers_declared {key : String} (hkey : key ≠ "name") {declared : Declared CType}
    (htype : inner.Recovers declared.type.toJson declared.type) :
    (decodeDeclared key inner).Recovers (declarationToJson key declared) declared := by
  have hname := Decoder.recovers_text declared.name
  refine Decoder.recovers_record rfl (by simp [hkey.symm]) ?_ fun {levels} hlevels => ?_
  · simp [hname.wellSpelled, htype.wellSpelled]
  · simp only [List.forall_mem_cons] at hlevels
    obtain ⟨hname', htype', -⟩ := hlevels
    simp [hname.decode_eq hname', htype.decode_eq htype']

/-! ## Layers -/

/-- A layer is recovered when what it carries is. -/
theorem recovers_layer {kind : String} {content : Json} {type : CType}
    (h : (decodeContent inner kind).Recovers content type) :
    (layer inner).Recovers (.ofVariant kind content) type := by
  refine ⟨.object ?_ ?_, fun {levels} hdepth => ?_⟩
  · simp [Json.isSpelled_escape]
  · simp [h.wellSpelled]
  · obtain ⟨levels, rfl, hlevels⟩ := Json.levels_of_depth_object hdepth
    have hcontent : content.depth ≤ levels := hlevels (Json.escape kind.toList, content) (by simp)
    have hvariant : Decoder.variant? (.ofVariant kind content) = some (kind, content) := by
      simp [Json.ofVariant, Json.ofFields, Decoder.variant?, Json.textKey_escape]
    show Decoder.variant? (.ofVariant kind content) >>= _ = _
    rw [hvariant]
    exact h.decode_eq hcontent

theorem recovers_void : (layer inner).Recovers CType.void.toJson .void := by
  have htext := Decoder.recovers_text "void"
  show (layer inner).Recovers (.ofText "void") .void
  refine ⟨htext.wellSpelled, fun {levels} hlevels => ?_⟩
  have hdecoded : Json.text? (.ofText "void") = some "void" := htext.decode_eq hlevels
  have hlayer : layer inner levels (.ofText "void") =
      (do if (← Json.text? (.ofText "void")) = "void" then some CType.void else none) := by
    cases levels with
    | zero => rfl
    | succ levels => rfl
  rw [hlayer, hdecoded]
  rfl

theorem recovers_int {size : Nat} (signed : Bool) (hsize : size < UInt64.size) :
    (layer inner).Recovers (CType.int size signed).toJson (.int size signed) := by
  have hsize := recovers_size hsize
  have hsigned := Decoder.recovers_bool signed
  refine recovers_layer (Decoder.recovers_record rfl (by simp) ?_ fun {levels} hlevels => ?_)
  · simp [hsize.wellSpelled, hsigned.wellSpelled]
  · simp only [List.forall_mem_cons] at hlevels
    obtain ⟨hsize', hsigned', -⟩ := hlevels
    simp [hsize.decode_eq hsize', hsigned.decode_eq hsigned']

theorem recovers_float {size : Nat} (hsize : size < UInt64.size) :
    (layer inner).Recovers (CType.float size).toJson (.float size) := by
  have hsize := recovers_size hsize
  refine recovers_layer (Decoder.recovers_record rfl (by simp) ?_ fun {levels} hlevels => ?_)
  · simp [hsize.wellSpelled]
  · simp only [List.forall_mem_cons] at hlevels
    simp [hsize.decode_eq hlevels.1]

theorem recovers_pointer {target : CType} (htarget : inner.Recovers target.toJson target) :
    (layer inner).Recovers (CType.pointer target).toJson (.pointer target) :=
  recovers_layer (htarget.map CType.pointer)

theorem recovers_array {element : CType} {length : Option Nat}
    (helement : inner.Recovers element.toJson element) (hlength : ∀ n ∈ length, n < UInt64.size) :
    (layer inner).Recovers (CType.array element length).toJson (.array element length) := by
  have hlength := recovers_length hlength
  refine recovers_layer (Decoder.recovers_record rfl (by simp) ?_ fun {levels} hlevels => ?_)
  · simp [helement.wellSpelled, hlength.wellSpelled]
  · simp only [List.forall_mem_cons] at hlevels
    obtain ⟨helement', hlength', -⟩ := hlevels
    simp [helement.decode_eq helement', Decoder.orDefault, hlength.decode_eq hlength']

theorem recovers_struct {layout : StructType CType}
    (hfields : ∀ field ∈ layout.fields, inner.Recovers field.type.toJson field.type)
    (hoffsets : ∀ field ∈ layout.fields, field.offsetBits < UInt64.size)
    (hsize : layout.size < UInt64.size) (halignment : layout.alignment < UInt64.size) :
    (layer inner).Recovers (CType.struct layout).toJson (.struct layout) := by
  obtain ⟨tag, fields, size, alignment, packed⟩ := layout
  have htag := recovers_tag tag
  have hlist : (Decoder.list (decodeField inner)).Recovers (.array (fieldsToJson fields)) fields := by
    rw [fieldsToJson_eq_map]
    exact Decoder.recovers_list fun field hfield =>
      recovers_field (hfields field hfield) (hoffsets field hfield)
  have hsize := recovers_size hsize
  have halignment := recovers_size halignment
  have hpacked := Decoder.recovers_bool packed
  refine recovers_layer (Decoder.recovers_record rfl (by simp) ?_ fun {levels} hlevels => ?_)
  · simp [htag.wellSpelled, hlist.wellSpelled, hsize.wellSpelled, halignment.wellSpelled,
      hpacked.wellSpelled]
  · simp only [List.forall_mem_cons] at hlevels
    obtain ⟨htag', hlist', hsize', halignment', hpacked', -⟩ := hlevels
    simp [decodeTag, Decoder.orDefault, htag.decode_eq htag', hlist.decode_eq hlist',
      hsize.decode_eq hsize', halignment.decode_eq halignment', hpacked.decode_eq hpacked']

theorem recovers_union {layout : UnionType CType}
    (hmembers : ∀ member ∈ layout.members, inner.Recovers member.type.toJson member.type)
    (hsize : layout.size < UInt64.size) (halignment : layout.alignment < UInt64.size) :
    (layer inner).Recovers (CType.union layout).toJson (.union layout) := by
  obtain ⟨tag, members, size, alignment⟩ := layout
  have htag := recovers_tag tag
  have hlist : (Decoder.list (decodeDeclared "member_type" inner)).Recovers
      (.array (declaredToJson "member_type" members)) members := by
    rw [declaredToJson_eq_map]
    exact Decoder.recovers_list fun member hmember =>
      recovers_declared (by simp) (hmembers member hmember)
  have hsize := recovers_size hsize
  have halignment := recovers_size halignment
  refine recovers_layer (Decoder.recovers_record rfl (by simp) ?_ fun {levels} hlevels => ?_)
  · simp [htag.wellSpelled, hlist.wellSpelled, hsize.wellSpelled, halignment.wellSpelled]
  · simp only [List.forall_mem_cons] at hlevels
    obtain ⟨htag', hlist', hsize', halignment', -⟩ := hlevels
    simp [decodeTag, Decoder.orDefault, htag.decode_eq htag', hlist.decode_eq hlist',
      hsize.decode_eq hsize', halignment.decode_eq halignment']

theorem recovers_enum {layout : EnumType}
    (hvalues : ∀ value ∈ layout.values,
      Int64.minValue.toInt ≤ value.2 ∧ value.2 ≤ Int64.maxValue.toInt)
    (hsize : layout.underlyingSize < UInt64.size) :
    (layer inner).Recovers (CType.enum layout).toJson (.enum layout) := by
  obtain ⟨tag, values, underlyingSize⟩ := layout
  have htag := recovers_tag tag
  have hlist : (Decoder.list (.pair .text .integer64)).Recovers
      (.array (values.map fun value => .array [.ofText value.1, .ofInt value.2])) values :=
    Decoder.recovers_list fun value hvalue =>
      Decoder.recovers_pair (Decoder.recovers_text value.1)
        (Decoder.recovers_integer64 (hvalues value hvalue).1 (hvalues value hvalue).2)
  have hsize := recovers_size hsize
  refine recovers_layer (Decoder.recovers_record rfl (by simp) ?_ fun {levels} hlevels => ?_)
  · simp [htag.wellSpelled, hlist.wellSpelled, hsize.wellSpelled]
  · simp only [List.forall_mem_cons] at hlevels
    obtain ⟨htag', hlist', hsize', -⟩ := hlevels
    simp [decodeTag, Decoder.orDefault, htag.decode_eq htag', hlist.decode_eq hlist',
      hsize.decode_eq hsize']

theorem recovers_function {signature : Signature CType}
    (hresult : inner.Recovers signature.result.toJson signature.result)
    (hparams : ∀ param ∈ signature.params, inner.Recovers param.type.toJson param.type) :
    (layer inner).Recovers (CType.function signature).toJson (.function signature) := by
  obtain ⟨result, params⟩ := signature
  have hlist : (Decoder.list (decodeDeclared "param_type" inner)).Recovers
      (.array (declaredToJson "param_type" params)) params := by
    rw [declaredToJson_eq_map]
    exact Decoder.recovers_list fun param hparam =>
      recovers_declared (by simp) (hparams param hparam)
  refine recovers_layer (Decoder.recovers_record rfl (by simp) ?_ fun {levels} hlevels => ?_)
  · simp [hresult.wellSpelled, hlist.wellSpelled]
  · simp only [List.forall_mem_cons] at hlevels
    obtain ⟨hresult', hlist', -⟩ := hlevels
    simp [hresult.decode_eq hresult', hlist.decode_eq hlist']

theorem recovers_synonym (name : String) {target : CType}
    (htarget : inner.Recovers target.toJson target) :
    (layer inner).Recovers (CType.synonym name target).toJson (.synonym name target) := by
  have hname := Decoder.recovers_text name
  refine recovers_layer (Decoder.recovers_record rfl (by simp) ?_ fun {levels} hlevels => ?_)
  · simp [hname.wellSpelled, htarget.wellSpelled]
  · simp only [List.forall_mem_cons] at hlevels
    obtain ⟨hname', htarget', -⟩ := hlevels
    simp [hname.decode_eq hname', htarget.decode_eq htarget']

theorem recovers_named (name : String) :
    (layer inner).Recovers (CType.named name).toJson (.named name) :=
  recovers_layer ((Decoder.recovers_text name).map CType.named)

end Layer

/-! ## Nesting

The types inside a type nest less than it does. -/

theorem depth_target_lt (target : CType) :
    target.toJson.depth < (CType.pointer target).toJson.depth :=
  Json.depth_lt_ofVariant "pointer" target.toJson

theorem depth_element_lt (element : CType) (length : Option Nat) :
    element.toJson.depth < (CType.array element length).toJson.depth :=
  (Json.depth_lt_ofFields "element" (by simp)).trans (Json.depth_lt_ofVariant "array" _)

theorem depth_field_lt {layout : StructType CType} {field : Field CType}
    (h : field ∈ layout.fields) :
    field.type.toJson.depth < (CType.struct layout).toJson.depth := by
  obtain ⟨tag, fields, size, alignment, packed⟩ := layout
  have hfield : fieldToJson field ∈ fieldsToJson fields := by
    rw [fieldsToJson_eq_map]
    exact List.mem_map_of_mem h
  refine Nat.lt_trans ?_ (Json.depth_lt_ofVariant "struct" _)
  calc field.type.toJson.depth
      < (fieldToJson field).depth := Json.depth_lt_ofFields "field_type" (by simp)
    _ < (Json.array (fieldsToJson fields)).depth := Json.depth_lt_array hfield
    _ < _ := Json.depth_lt_ofFields "fields" (by simp)

theorem depth_declared_lt {key : String} {declared : List (Declared CType)}
    {first : Declared CType} (h : first ∈ declared) :
    first.type.toJson.depth < (Json.array (declaredToJson key declared)).depth := by
  have hfirst : declarationToJson key first ∈ declaredToJson key declared := by
    rw [declaredToJson_eq_map]
    exact List.mem_map_of_mem h
  exact (Json.depth_lt_ofFields key (by simp)).trans (Json.depth_lt_array hfirst)

theorem depth_member_lt {layout : UnionType CType} {member : Declared CType}
    (h : member ∈ layout.members) :
    member.type.toJson.depth < (CType.union layout).toJson.depth := by
  obtain ⟨tag, members, size, alignment⟩ := layout
  refine Nat.lt_trans ?_ (Json.depth_lt_ofVariant "union" _)
  calc member.type.toJson.depth
      < (Json.array (declaredToJson "member_type" members)).depth := depth_declared_lt h
    _ < _ := Json.depth_lt_ofFields "members" (by simp)

theorem depth_result_lt (signature : Signature CType) :
    signature.result.toJson.depth < (CType.function signature).toJson.depth := by
  obtain ⟨result, params⟩ := signature
  exact (Json.depth_lt_ofFields "return_type" (by simp)).trans
    (Json.depth_lt_ofVariant "function" _)

theorem depth_param_lt {signature : Signature CType} {param : Declared CType}
    (h : param ∈ signature.params) :
    param.type.toJson.depth < (CType.function signature).toJson.depth := by
  obtain ⟨result, params⟩ := signature
  refine Nat.lt_trans ?_ (Json.depth_lt_ofVariant "function" _)
  calc param.type.toJson.depth
      < (Json.array (declaredToJson "param_type" params)).depth := depth_declared_lt h
    _ < _ := Json.depth_lt_ofFields "parameters" (by simp)

theorem depth_synonym_target_lt (name : String) (target : CType) :
    target.toJson.depth < (CType.synonym name target).toJson.depth :=
  (Json.depth_lt_ofFields "target" (by simp)).trans (Json.depth_lt_ofVariant "typedef" _)

/-! ## Whole types -/

theorem recovers_layers_of {type : CType} {n : Nat} (hn : type.toJson.depth < n)
    (h : ∀ {left}, type.toJson.depth ≤ left → (layer (layers left)).Recovers type.toJson type) :
    (layers n).Recovers type.toJson type := by
  cases n with
  | zero => exact absurd hn (Nat.not_lt_zero _)
  | succ left => exact h (Nat.le_of_lt_succ hn)

/-- More layers than a document nests levels recover the type. -/
theorem FitsWords.recovers_layers {type : CType} (h : type.FitsWords) :
    ∀ {n}, type.toJson.depth < n → (layers n).Recovers type.toJson type := by
  -- Along the type: what is inside nests less, so the layers that are left are enough for it.
  induction h with
  | void => exact fun hn => recovers_layers_of hn fun _ => recovers_void
  | int signed hsize => exact fun hn => recovers_layers_of hn fun _ => recovers_int signed hsize
  | float hsize => exact fun hn => recovers_layers_of hn fun _ => recovers_float hsize
  | pointer _ ih =>
    exact fun hn => recovers_layers_of hn fun hleft =>
      recovers_pointer (ih (Nat.lt_of_lt_of_le (depth_target_lt _) hleft))
  | array _ hlength ih =>
    exact fun hn => recovers_layers_of hn fun hleft =>
      recovers_array (ih (Nat.lt_of_lt_of_le (depth_element_lt _ _) hleft)) hlength
  | struct _ hoffsets hsize halignment ih =>
    exact fun hn => recovers_layers_of hn fun hleft =>
      recovers_struct
        (fun field hfield => ih field hfield (Nat.lt_of_lt_of_le (depth_field_lt hfield) hleft))
        hoffsets hsize halignment
  | union _ hsize halignment ih =>
    exact fun hn => recovers_layers_of hn fun hleft =>
      recovers_union
        (fun member hmember =>
          ih member hmember (Nat.lt_of_lt_of_le (depth_member_lt hmember) hleft))
        hsize halignment
  | enum hvalues hsize => exact fun hn => recovers_layers_of hn fun _ => recovers_enum hvalues hsize
  | function _ _ ihresult ihparams =>
    exact fun hn => recovers_layers_of hn fun hleft =>
      recovers_function (ihresult (Nat.lt_of_lt_of_le (depth_result_lt _) hleft))
        fun param hparam =>
          ihparams param hparam (Nat.lt_of_lt_of_le (depth_param_lt hparam) hleft)
  | synonym name _ ih =>
    exact fun hn => recovers_layers_of hn fun hleft =>
      recovers_synonym name (ih (Nat.lt_of_lt_of_le (depth_synonym_target_lt _ _) hleft))
  | named name => exact fun hn => recovers_layers_of hn fun _ => recovers_named name

/-- Every type whose numbers fit is recovered from its document. -/
theorem FitsWords.recovers {type : CType} (h : type.FitsWords) :
    ofJson.Recovers type.toJson type :=
  ⟨(h.recovers_layers (Nat.lt_succ_self _)).wellSpelled, fun {_} hlevels =>
    (h.recovers_layers (Nat.lt_succ_of_le hlevels)).decode_eq hlevels⟩

end UefiTyping.CType
