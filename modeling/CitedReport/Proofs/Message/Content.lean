import CitedReport.Message.Content
import CitedReport.Proofs.Json.Arrangement

/-!
# Contents in JSON

A content is read back from what is written for it, however deep its parts nest and in whatever
order the members of its objects stand. The induction is over the fuel of the reader, which is more
than the brackets of the value nest: what a part needs is less than what the whole does.
-/

namespace CitedReport.Content

open Json

/-- Parts are written one by one. -/
theorem toJsonOf_eq_map (parts : List Content) : toJsonOf parts = parts.map toJson := by
  induction parts with
  | nil => rfl
  | cons c parts ih => rw [toJsonOf, ih, List.map_cons]

mutual

/-- All of a written content can be had. -/
theorem isReadable_toJson : (c : Content) → c.toJson.isReadable = true
  | .text _ => rfl
  | .toolCall call => by
    have hargs : call.arguments.json.isReadable = true :=
      isReadable_of_isSorted _ call.arguments.isSorted
    simp [toJson, isReadable, membersReadable, hargs]
  | .toolResult _ _ _ => rfl
  | .multiPart parts => by
    simp [toJson, isReadable, membersReadable, allReadable_toJsonOf parts]

/-- All of written parts can be had. -/
theorem allReadable_toJsonOf : (parts : List Content) → allReadable (toJsonOf parts) = true
  | [] => rfl
  | c :: rest => by
    rw [toJsonOf, allReadable, isReadable_toJson c, allReadable_toJsonOf rest, Bool.and_self]

end

section

variable {arrange : Json → Json} {kind? : Json → Option String}

/-- The alternative of a content and its other members, in any arrangement. -/
theorem taggedBy?_toJson (h : Arranges arrange) {c : Content} {name : String}
    {members : List (String × Json)} (hc : c.toJson = .object (("type", .string name) :: members))
    (hdistinct : (keys (("type", .string name) :: members)).Nodup)
    (hkind : ∀ name, kind? (.string name) = some name) :
    ∃ rest, taggedBy? kind? "type" (arrange c.toJson) = some (name, .object rest) ∧
      Rearranged arrange members rest ∧
      ∀ key v, lookup key members = some v →
        (arrange v).nesting < (arrange c.toJson).nesting := by
  obtain ⟨members', hmembers', hrearranged⟩ := h.object _ hdistinct
  have hreadable := h.isReadable _ (isReadable_toJson c)
  rw [hc, hmembers'] at hreadable ⊢
  obtain ⟨rest, htagged, hrest⟩ :=
    hrearranged.taggedBy? h (List.nodup_cons.1 hdistinct).1 hreadable (hkind name)
  refine ⟨rest, htagged, hrest, fun key v hv => ?_⟩
  have hv' : lookup key members' = some (arrange v) := by
    rw [hrearranged.lookup_eq, lookup_cons, hv]
    rfl
  exact nesting_lt_of_lookup hv'

/-- A content is read back with as much fuel as its brackets nest. -/
theorem read_toJson (h : Arranges arrange) (c : Content) {fuel : Nat}
    (hkind : ∀ name, kind? (.string name) = some name)
    (hfuel : (arrange c.toJson).nesting < fuel) : read fuel kind? (arrange c.toJson) = some c := by
  induction fuel generalizing c kind? with
  | zero => omega
  | succ fuel ih =>
    cases c with
    | text s =>
      obtain ⟨rest, htagged, hrest, -⟩ :=
        taggedBy?_toJson h (c := .text s) rfl (by simp) hkind
      have htext := hrest.required "text" rfl (h.readsBack_string s)
      simp [read, htagged, hrest.record?, htext]
    | toolCall call =>
      obtain ⟨id, name, arguments⟩ := call
      obtain ⟨rest, htagged, hrest, -⟩ :=
        taggedBy?_toJson h (c := .toolCall ⟨id, name, arguments⟩) rfl (by simp) hkind
      have hid := hrest.required "id" rfl (h.readsBack_string id)
      have hname := hrest.required "name" rfl (h.readsBack_string name)
      have harguments := hrest.required "arguments" rfl (h.readsBack_json arguments)
      simp [read, htagged, hrest.record?, hid, hname, harguments]
    | toolResult callId output isError =>
      obtain ⟨rest, htagged, hrest, -⟩ :=
        taggedBy?_toJson h (c := .toolResult callId output isError) rfl (by simp) hkind
      have hcallId := hrest.required "call_id" rfl (h.readsBack_string callId)
      have houtput := hrest.required "output" rfl (h.readsBack_string output)
      have hisError := hrest.required "is_error" rfl (h.readsBack_bool isError)
      simp [read, htagged, hrest.record?, hcallId, houtput, hisError]
    | multiPart parts =>
      obtain ⟨rest, htagged, hrest, hnesting⟩ :=
        taggedBy?_toJson h (c := .multiPart parts) rfl (by simp) hkind
      -- a part is inside the brackets of the list and those of the whole
      have hlt := hnesting "parts" (.array (toJsonOf parts)) rfl
      have hread : listOf (read fuel (nameAside? kinds)) (arrange (.array (toJsonOf parts)))
          = some parts := by
        rw [toJsonOf_eq_map] at hlt ⊢
        refine h.listOf_ofList fun part hpart => ih part (fun _ => rfl) ?_
        have hinner : (arrange part.toJson).nesting
            < (arrange (.array (parts.map toJson))).nesting := by
          rw [h.array]
          exact nesting_lt_of_mem (List.mem_map_of_mem (List.mem_map_of_mem hpart))
        omega
      have hparts := hrest.required "parts" rfl hread
      simp [read, htagged, hrest.record?, hparts]

/-- A content is read back. -/
theorem readsBack (h : Arranges arrange) : ReadsBack arrange toJson ofJson? :=
  fun c => read_toJson h c (fun _ => rfl) (Nat.lt_succ_self _)

end

end CitedReport.Content
