import StageGate.Proofs.Json.Text
import StageGate.Proofs.Value.Project

/-! Literals beside the values of stored data that they are taken from: where their texts agree. -/
namespace StageGate

open Text

/-- A text that reads as a date-time is the text form of this date-time. -/
def Spelled (s : String) : Prop :=
  ∀ t, DateTime.read? s = some t → t.toText = s

/-- So are the texts inside of a list or record; a text that stands alone may have any spelling. -/
def Json.SpelledInside : Json → Prop
  | array items => ∀ s ∈ itemTexts items, Spelled s
  | object fields => ∀ s ∈ fieldTexts fields, Spelled s
  | _ => True

theorem spelled_toText (t : DateTime) : Spelled t.toText := by
  intro t' ht'
  rw [DateTime.read?_toText, Option.some.injEq] at ht'
  rw [← ht', DateTime.toText_toTheSecond]

namespace Value

theorem toText_ofText_eq_iff {s : String} : (ofText s).toText = s ↔ Spelled s := by
  unfold ofText Spelled
  cases DateTime.read? s with
  | none => simp [toText]
  | some t => simp [toText]

theorem toJson_ofText (s : String) : (ofText s).toJson = .string (ofText s).toText := by
  unfold ofText
  split <;> rfl

mutual

theorem agreeIff_render : ∀ raw : Json,
    AgreeIff (∀ s ∈ raw.texts, Spelled s) (project raw).toJson.render (ofJson raw).toJson.render
  | .null | .bool _ | .whole _ | .float _ => by
    simp only [project, ofJson, ofJsonWith]
    exact (agreeIff_self _).congr (by simp [Json.texts])
  | .string s => by
    have hquoted := Json.agreeIff_quoted (ofText s).toText s
    simp only [project, ofJson, ofJsonWith, toJson_ofText]
    exact hquoted.congr (by simp [Json.texts, toText_ofText_eq_iff])
  | .array items => by
    have hitems := ((agreeIff_self "[").append (agreeIff_items items)).append (agreeIff_self "]")
    simp only [project, ofJson, ofJsonWith, toJson, Json.render]
    exact hitems.congr (by simp [Json.texts])
  | .object fields => by
    have hfields := ((agreeIff_self "\x7b").append (agreeIff_fields fields)).append
      (agreeIff_self "\x7d")
    simp only [project, ofJson, ofJsonWith, toJson, Json.render]
    exact hfields.congr (by simp [Json.texts])

theorem agreeIff_items : ∀ items : List Json,
    AgreeIff (∀ s ∈ Json.itemTexts items, Spelled s)
      (",".intercalate (Json.renderItems (itemsToJson (ofItemsWith ofText items))))
      (",".intercalate (Json.renderItems (itemsToJson (ofItemsWith string items))))
  | [] => by
    simp only [ofItemsWith]
    exact (agreeIff_self _).congr (by simp [Json.itemTexts])
  | [item] => by
    simp only [ofItemsWith, itemsToJson, Json.renderItems, String.intercalate_singleton]
    exact (agreeIff_render item).congr (by simp [Json.itemTexts])
  | item :: next :: items => by
    have hmore := agreeIff_items (next :: items)
    simp only [ofItemsWith, itemsToJson, Json.renderItems, String.intercalate_cons_cons] at hmore ⊢
    exact (((agreeIff_render item).append (agreeIff_self ",")).append hmore).congr
      (by simp [Json.itemTexts, or_imp, forall_and])

theorem agreeIff_fields : ∀ fields : List (String × Json),
    AgreeIff (∀ s ∈ Json.fieldTexts fields, Spelled s)
      (",".intercalate (Json.renderFields (fieldsToJson (ofFieldsWith ofText fields))))
      (",".intercalate (Json.renderFields (fieldsToJson (ofFieldsWith string fields))))
  | [] => by
    simp only [ofFieldsWith]
    exact (agreeIff_self _).congr (by simp [Json.fieldTexts])
  | [(name, value)] => by
    simp only [ofFieldsWith, fieldsToJson, Json.renderFields, String.intercalate_singleton]
    exact ((agreeIff_self (Json.quoted name ++ ":")).append (agreeIff_render value)).congr
      (by simp [Json.fieldTexts])
  | (name, value) :: next :: fields => by
    have hvalue := (agreeIff_self (Json.quoted name ++ ":")).append (agreeIff_render value)
    have hmore := agreeIff_fields (next :: fields)
    simp only [ofFieldsWith, fieldsToJson, Json.renderFields, String.intercalate_cons_cons]
      at hmore ⊢
    exact ((hvalue.append (agreeIff_self ",")).append hmore).congr
      (by simp [Json.fieldTexts, or_imp, forall_and])

end

theorem trim_enclosed (opening closing : Char) (cs : List Char) {text : String}
    (hopening : isBlankChar opening = false) (hclosing : isBlankChar closing = false)
    (h : text.toList = opening :: (cs ++ [closing])) : trim text = text := by
  have hkept : trimChars text.toList = text.toList := by
    refine trimChars_eq_self_iff.mpr ⟨fun c hc => ?_, fun c hc => ?_⟩
    · obtain rfl : opening = c := by simpa [h] using hc
      exact hopening
    · rw [h, ← List.cons_append, List.getLast?_concat] at hc
      exact Option.some.inj hc ▸ hclosing
  rw [trim, hkept, String.ofList_toList]

theorem trim_toText_list (items : List Value) : trim (list items).toText = (list items).toText :=
  trim_enclosed '[' ']' (",".intercalate (Json.renderItems (itemsToJson items))).toList
    (by decide) (by decide) (by simp [toText, toJson, Json.render])

theorem trim_toText_record (fields : List (String × Value)) :
    trim (record fields).toText = (record fields).toText :=
  trim_enclosed '\x7b' '\x7d' (",".intercalate (Json.renderFields (fieldsToJson fields))).toList
    (by decide) (by decide) (by simp [toText, toJson, Json.render])

end Value
end StageGate
