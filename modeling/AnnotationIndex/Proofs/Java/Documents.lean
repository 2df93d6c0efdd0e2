import AnnotationIndex.Java.Document
import AnnotationIndex.Proofs.Json.Exact

/-!
# Documents of values and headers

Headers are read back from their documents. So are the values of annotation arguments, however they
are nested, if the floating point numbers in them are.
-/

namespace AnnotationIndex.Java

open Decoder Json Number

mutual

def Value.reals : Value → List Binary64
  | .real x => [x]
  | .array items => realsOfValues items
  | .nested ⟨_, arguments⟩ => realsOfArguments arguments
  | _ => []

def realsOfValues : List Value → List Binary64
  | [] => []
  | v :: vs => v.reals ++ realsOfValues vs

def realsOfArguments : List (Argument Value) → List Binary64
  | [] => []
  | ⟨_, v⟩ :: rest => v.reals ++ realsOfArguments rest

end

private theorem int64_range (n : Int64) :
    Int64.minValue.toInt ≤ n.toInt ∧ n.toInt ≤ Int64.maxValue.toInt :=
  ⟨Int64.minValue_le_toInt n, Int64.toInt_le n⟩

variable {bound : Nat}

theorem exact_int64 (n : Int64) : Exact bound int64Decoder (.ofInt n.toInt) n := by
  have hwhole : Exact bound (whole Int64.minValue.toInt Int64.maxValue.toInt) (.ofInt n.toInt)
      n.toInt := exact_whole (by decide) (by decide) (int64_range n)
  have hmap := hwhole.map Int64.ofInt
  rwa [Int64.ofInt_toInt] at hmap

private theorem tagged_typed {type : String} (htype : type ∈ valueTypes) (content : Json)
    (held : Bool) (levels : Nat) :
    tagged "type" "value" valueTypes held (levels + 1)
        (.object [("type", .string type), ("value", content)]) =
      some ⟨type, some content, levels, held⟩ := by
  have hname : namedTag held valueTypes levels (.string type) = some type := by
    have hall : ∀ t ∈ valueTypes, (valueTypes.map fun t => (t, t)).lookup t = some t := by decide
    simp only [namedTag, oneOf]
    exact hall type htype
  simp [tagged, hname]

theorem exact_argument {d : Decoder Value} {j : Json} {v : Value} (h : Exact bound d j v)
    (name : Option String) :
    Exact bound (argumentDecoderOf d)
      (.object ((name.map fun n => ("name", Json.string n)).toList ++ [("value", j)])) ⟨name, v⟩ := by
  cases name with
  | none =>
    apply exact_record (by simp) (by simp)
    intro levels hlevels
    simp [Fields.withDefault, Fields.required, List.lookup_cons, h levels hlevels, bind_within,
      depthOfMembers]
  | some name =>
    apply exact_record (by simp) (by simp)
    intro levels hlevels
    simp [Fields.withDefault, Fields.required, List.lookup_cons, h levels hlevels, bind_within,
      depthOfMembers, depth, orNull, text]

theorem argumentsMember_nil : argumentsMember [] = [] := rfl

theorem argumentsMember_cons (a : Argument Value) (arguments : List (Argument Value)) :
    argumentsMember (a :: arguments) =
      [("arguments", .array (argumentsToJson (a :: arguments)))] := rfl

theorem exact_use {d : Decoder Value} {arguments : List (Argument Value)}
    (h : Exact bound (list (argumentDecoderOf d)) (.array (argumentsToJson arguments)) arguments)
    (kind : String) :
    Exact bound (annotationDecoderOf d)
      (.object (("kind", .string kind) :: argumentsMember arguments)) ⟨kind, arguments⟩ := by
  cases arguments with
  | nil =>
    rw [argumentsMember_nil]
    apply exact_record (by simp) (by simp)
    intro levels hlevels
    simp [Fields.withDefault, Fields.required, List.lookup_cons, depthOfMembers, depth, text]
  | cons a arguments =>
    rw [argumentsMember_cons]
    generalize Json.array (argumentsToJson (a :: arguments)) = j at h ⊢
    apply exact_record (by simp) (by simp)
    intro levels hlevels
    simp [Fields.withDefault, Fields.required, List.lookup_cons, h levels hlevels, bind_within,
      depthOfMembers, depth, text]

theorem valuesToJson_eq_map (vs : List Value) : valuesToJson vs = vs.map Value.toJson := by
  induction vs with
  | nil => rfl
  | cons v vs ih => rw [valuesToJson, ih, List.map_cons]

def Argument.document (a : Argument Value) : Json :=
  .object ((a.name.map fun n => ("name", Json.string n)).toList ++ [("value", a.value.toJson)])

theorem argumentsToJson_eq_map (arguments : List (Argument Value)) :
    argumentsToJson arguments = arguments.map Argument.document := by
  induction arguments with
  | nil => rfl
  | cons a arguments ih =>
    obtain ⟨name, v⟩ := a
    rw [argumentsToJson, ih, List.map_cons]
    rfl

private theorem exact_typed {α : Type} {type : String} {n : Nat} {held : Bool} {d : Decoder α}
    {content : Json} {v : α} {wrap : α → Value} (h : Exact n d content v)
    (hcase : ∀ levels, valueDecoderOf (n + 1) held (levels + 1)
      (.object [("type", .string type), ("value", content)]) = (d levels content).map wrap) :
    Exact (n + 1) (valueDecoderOf (n + 1) held)
      (.object [("type", .string type), ("value", content)]) (wrap v) := by
  intro levels hlevels
  cases levels with
  | zero => rfl
  | succ levels =>
    rw [hcase, h levels (Nat.lt_of_succ_lt_succ hlevels)]
    simp only [depth, depthOfMembers, Nat.zero_max, Nat.max_zero, Nat.add_le_add_iff_right]
    split <;> rfl

private theorem exact_null (n : Nat) (held : Bool) :
    Exact (n + 1) (valueDecoderOf (n + 1) held) Value.null.toJson .null := by
  intro levels _
  cases levels with
  | zero => rfl
  | succ levels =>
    have hname : namedTag held valueTypes levels (.string "null") = some "null" := by
      simp only [namedTag, oneOf]
      decide
    simp [valueDecoderOf, Value.toJson, tagged, hname, depth, depthOfMembers]

mutual

theorem exact_valueOf : ∀ (v : Value), (∀ x ∈ v.reals, ReadsBack x) → ∀ (n : Nat) (held : Bool),
    Exact n (valueDecoderOf n held) v.toJson v
  | _, _, 0, _ => fun levels hlevels => absurd hlevels (Nat.not_lt_zero levels)
  | .string text, _, n + 1, held => exact_typed (exact_text text) fun levels => by
    simp [valueDecoderOf, tagged_typed (show "string" ∈ valueTypes by decide)]
  | .integer m, _, n + 1, held => exact_typed (exact_int64 m) fun levels => by
    simp [valueDecoderOf, tagged_typed (show "integer" ∈ valueTypes by decide)]
  | .real x, h, n + 1, held => exact_typed (exact_real (h x (by simp [Value.reals]))) fun levels => by
    simp [valueDecoderOf, tagged_typed (show "float" ∈ valueTypes by decide)]
  | .truth b, _, n + 1, held => exact_typed (exact_truth b) fun levels => by
    simp [valueDecoderOf, tagged_typed (show "boolean" ∈ valueTypes by decide)]
  | .character text, _, n + 1, held => exact_typed (exact_text text) fun levels => by
    simp [valueDecoderOf, tagged_typed (show "char" ∈ valueTypes by decide)]
  | .type name, _, n + 1, held => exact_typed (exact_text name) fun levels => by
    simp [valueDecoderOf, tagged_typed (show "class" ∈ valueTypes by decide)]
  | .constant name, _, n + 1, held => exact_typed (exact_text name) fun levels => by
    simp [valueDecoderOf, tagged_typed (show "constant" ∈ valueTypes by decide)]
  | .expression text, _, n + 1, held => exact_typed (exact_text text) fun levels => by
    simp [valueDecoderOf, tagged_typed (show "expression" ∈ valueTypes by decide)]
  | .null, _, n + 1, held => exact_null n held
  | .array items, h, n + 1, held => by
    have hitems := exact_list fun v hv => exact_valuesOf items (by simpa [Value.reals] using h) n held v hv
    rw [← valuesToJson_eq_map] at hitems
    exact exact_typed hitems fun levels => by
      simp [valueDecoderOf, tagged_typed (show "array" ∈ valueTypes by decide)]
  | .nested ⟨kind, arguments⟩, h, n + 1, held => by
    have hitems := exact_list fun a ha =>
      exact_argumentsOf arguments (by simpa [Value.reals] using h) n held a ha
    rw [← argumentsToJson_eq_map] at hitems
    exact exact_typed (exact_use hitems kind) fun levels => by
      simp [valueDecoderOf, tagged_typed (show "annotation" ∈ valueTypes by decide)]

theorem exact_valuesOf : ∀ (vs : List Value), (∀ x ∈ realsOfValues vs, ReadsBack x) →
    ∀ (n : Nat) (held : Bool), ∀ v ∈ vs, Exact n (valueDecoderOf n held) v.toJson v
  | [], _, _, _, v, hv => absurd hv List.not_mem_nil
  | w :: ws, h, n, held, v, hv => by
    rcases List.mem_cons.1 hv with heq | hv
    · rw [heq]
      exact exact_valueOf w (fun x hx => h x (by simp [realsOfValues, hx])) n held
    · exact exact_valuesOf ws (fun x hx => h x (by simp [realsOfValues, hx])) n held v hv

theorem exact_argumentsOf : ∀ (arguments : List (Argument Value)),
    (∀ x ∈ realsOfArguments arguments, ReadsBack x) → ∀ (n : Nat) (held : Bool),
    ∀ a ∈ arguments, Exact n (argumentDecoderOf (valueDecoderOf n held)) a.document a
  | [], _, _, _, a, ha => absurd ha List.not_mem_nil
  | ⟨name, w⟩ :: rest, h, n, held, a, ha => by
    rcases List.mem_cons.1 ha with heq | ha
    · have hvalue := exact_valueOf w (fun x hx => h x (by simp [realsOfArguments, hx])) n held
      rw [heq]
      exact exact_argument hvalue name
    · exact exact_argumentsOf rest (fun x hx => h x (by simp [realsOfArguments, hx])) n held a ha

end

theorem exact_value {v : Value} (h : ∀ x ∈ v.reals, ReadsBack x) :
    Exact bound valueDecoder v.toJson v :=
  fun levels _ => exact_valueOf v h (levels + 1) false levels (Nat.lt_succ_self levels)

private theorem reals_of_mem {arguments : List (Argument Value)} {a : Argument Value}
    (ha : a ∈ arguments) : ∀ x ∈ a.value.reals, x ∈ realsOfArguments arguments := by
  induction arguments with
  | nil => simp at ha
  | cons b arguments ih =>
    intro x hx
    rcases List.mem_cons.1 ha with rfl | ha
    · simp [realsOfArguments, hx]
    · simp [realsOfArguments, ih ha x hx]

/-- The arguments of an annotation are read exactly if the floating point numbers in them are read
back. -/
theorem exact_arguments {arguments : List (Argument Value)}
    (h : ∀ x ∈ realsOfArguments arguments, ReadsBack x) :
    Exact bound (list argumentDecoder) (.array (argumentsToJson arguments)) arguments := by
  rw [argumentsToJson_eq_map]
  apply exact_list
  intro a ha
  exact exact_argument (exact_value fun x hx => h x (reals_of_mem ha x hx)) a.name

theorem exact_header (h : Header) : Exact bound Header.decoder h.toJson h := by
  obtain ⟨package, onDemand, types⟩ := h
  have hpackage : Exact bound (orNull text) (.ofText? package) package := exact_ofText? package
  have honDemand : Exact bound (list text) (.array (onDemand.map .string)) onDemand :=
    exact_texts onDemand
  have htypes : Exact bound (list text) (.array (types.map .string)) types := exact_texts types
  unfold Header.toJson
  generalize Json.ofText? package = jp at hpackage ⊢
  generalize Json.array (onDemand.map .string) = jd at honDemand ⊢
  generalize Json.array (types.map .string) = jt at htypes ⊢
  apply exact_record (by simp) (by simp)
  intro levels hlevels
  simp [Fields.nullable, Fields.required, List.lookup_cons, hpackage levels hlevels,
    honDemand levels hlevels, htypes levels hlevels, bind_within, within_within, depthOfMembers]

private theorem printable_typed (type : String) {content : Json} (h : content.Printable) :
    (Json.object [("type", .string type), ("value", content)]).Printable := by
  simp [h]

private theorem printable_use (kind : String) {arguments : List (Argument Value)}
    (h : ∀ a ∈ arguments, a.document.Printable) :
    (Json.object (("kind", .string kind) :: argumentsMember arguments)).Printable := by
  cases arguments with
  | nil => simp [argumentsMember_nil]
  | cons a arguments =>
    rw [argumentsMember_cons, argumentsToJson_eq_map]
    simpa using h

private theorem printable_argument {a : Argument Value} (h : a.value.toJson.Printable) :
    a.document.Printable := by
  obtain ⟨name, v⟩ := a
  cases name with
  | none => simpa [Argument.document] using h
  | some name => simpa [Argument.document] using h

mutual

theorem printable_value : ∀ (v : Value), (∀ x ∈ v.reals, ReadsBack x) → v.toJson.Printable
  | .string text, _ => printable_typed "string" (printable_string text)
  | .integer n, _ => printable_typed "integer" (isNumber_int n.toInt)
  | .real x, h => printable_typed "float" (h x (by simp [Value.reals])).isNumber
  | .truth _, _ => printable_typed "boolean" trivial
  | .character text, _ => printable_typed "char" (printable_string text)
  | .null, _ => by simp [Value.toJson]
  | .type name, _ => printable_typed "class" (printable_string name)
  | .constant name, _ => printable_typed "constant" (printable_string name)
  | .array items, h => by
    apply printable_typed
    rw [valuesToJson_eq_map, printable_array, List.forall_mem_map]
    exact printable_values items (by simpa [Value.reals] using h)
  | .nested ⟨kind, arguments⟩, h =>
    printable_typed "annotation" (printable_use kind
      (printable_arguments arguments (by simpa [Value.reals] using h)))
  | .expression text, _ => printable_typed "expression" (printable_string text)

theorem printable_values : ∀ (vs : List Value), (∀ x ∈ realsOfValues vs, ReadsBack x) →
    ∀ v ∈ vs, v.toJson.Printable
  | [], _, v, hv => absurd hv List.not_mem_nil
  | w :: ws, h, v, hv => by
    rcases List.mem_cons.1 hv with heq | hv
    · rw [heq]
      exact printable_value w fun x hx => h x (by simp [realsOfValues, hx])
    · exact printable_values ws (fun x hx => h x (by simp [realsOfValues, hx])) v hv

theorem printable_arguments : ∀ (arguments : List (Argument Value)),
    (∀ x ∈ realsOfArguments arguments, ReadsBack x) → ∀ a ∈ arguments, a.document.Printable
  | [], _, a, ha => absurd ha List.not_mem_nil
  | ⟨name, w⟩ :: rest, h, a, ha => by
    rcases List.mem_cons.1 ha with heq | ha
    · have hvalue := printable_value w fun x hx => h x (by simp [realsOfArguments, hx])
      rw [heq]
      exact printable_argument hvalue
    · exact printable_arguments rest (fun x hx => h x (by simp [realsOfArguments, hx])) a ha

end

theorem printable_argumentsToJson {arguments : List (Argument Value)}
    (h : ∀ x ∈ realsOfArguments arguments, ReadsBack x) :
    (Json.array (argumentsToJson arguments)).Printable := by
  rw [argumentsToJson_eq_map, printable_array, List.forall_mem_map]
  exact printable_arguments arguments h

theorem printable_header (h : Header) : h.toJson.Printable := by
  obtain ⟨package, onDemand, types⟩ := h
  cases package <;> simp [Header.toJson, ofText?]

theorem run_header (h : Header) : Header.decoder.run h.toJson.compact = some h := by
  have hdepth : h.toJson.depth = 2 := by
    obtain ⟨package, onDemand, types⟩ := h
    cases package <;> simp [Header.toJson, ofText?, depth, depthOfMembers, depthOfItems_texts]
  rw [(exact_header h).run (parse?_compact (printable_header h)), hdepth, if_pos (by decide)]

end AnnotationIndex.Java
