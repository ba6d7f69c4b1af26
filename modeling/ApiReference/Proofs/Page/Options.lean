import ApiReference.Proofs.Json.RoundTrip
import ApiReference.Proofs.Page.Markup

/-!
# The Options of a Page Load as Text

The option object is written as JSON text, and once more as a literal of the inline script.  Both
texts are read back to the same value.
-/

namespace ApiReference

open Json Text

theorem Document.spellable_toJson (document : Document) : document.toJson.Spellable 1 := by
  refine .object (by simp) fun member hmember ↦ ?_
  simp only [List.mem_cons, List.not_mem_nil, or_false] at hmember
  rcases hmember with rfl | rfl
  · exact .text 0 document.name
  · exact .text 0 document.url

theorem Catalog.spellable_toJson (catalog : Catalog) : catalog.toJson.Spellable 2 := by
  refine .array fun item hitem ↦ ?_
  obtain ⟨document, -, rfl⟩ := List.mem_map.mp hitem
  exact document.spellable_toJson

namespace ViewerOptions

/-- No option is written twice. -/
theorem nodup_names (options : ViewerOptions) :
    ((([("url", Value.text options.url), ("urls", options.catalog.toJson),
      ("dom_id", .text options.domSelector)] ++ options.behavior.members ++
      options.primaryName.toList.map fun name ↦ ("urls.primaryName", Value.text name))).map
      Prod.fst).Nodup := by
  cases options.primaryName <;> simp [Behavior.members]

theorem spellable_toJson (options : ViewerOptions) : options.toJson.Spellable 3 := by
  refine .object options.nodup_names fun member hmember ↦ ?_
  simp only [Behavior.members, List.mem_append, List.mem_cons, List.not_mem_nil, or_false,
    List.mem_map] at hmember
  rcases hmember with ((rfl | rfl | rfl) | rfl | rfl | rfl | rfl) | ⟨name, -, rfl⟩
  case inl.inl.inr.inl => exact options.catalog.spellable_toJson
  case inl.inr.inl => exact .flag 2 _
  case inl.inr.inr.inr.inr => exact .flag 2 _
  all_goals exact .text 2 _

end ViewerOptions

namespace Frontend

/-! ## The literal of the script -/

theorem scriptSafeChar_of_notMem {c : Char} (h : c ∉ scriptUnsafe) : scriptSafeChar c = [c] := by
  simp only [scriptUnsafe, List.mem_cons, List.not_mem_nil, or_false, not_or] at h
  unfold scriptSafeChar
  split <;> simp_all

theorem notMem_scriptUnsafe_hexDigits : ∀ n < 0x20, lowerHexDigit (n / 16) ∉ scriptUnsafe ∧
    lowerHexDigit (n % 16) ∉ scriptUnsafe := by
  decide

/-- Printing puts no unsafe character into a string that was not there. -/
theorem notMem_scriptUnsafe_escapeChar {c : Char} (h : c ∉ scriptUnsafe) :
    ∀ d ∈ escapeChar c, d ∉ scriptUnsafe := by
  unfold escapeChar
  split
  case h_8 =>
    split
    case isTrue hcontrol =>
      obtain ⟨hhigh, hlow⟩ := notMem_scriptUnsafe_hexDigits c.toNat hcontrol
      intro d hd
      simp only [List.mem_cons, List.not_mem_nil, or_false] at hd
      rcases hd with rfl | rfl | rfl | rfl | rfl | rfl
      case inr.inr.inr.inr.inl => exact hhigh
      case inr.inr.inr.inr.inr => exact hlow
      all_goals decide
    case isFalse => simpa using h
  all_goals exact List.all_iff_forall_prop.mp (by decide)

/-- What the script writes for an unsafe character is a spelling of it. -/
theorem spellsChar_unsafe : ∀ c ∈ scriptUnsafe,
    SpellsChar ((escapeChar c).flatMap scriptSafeChar) c := by
  intro c hc
  simp only [scriptUnsafe, List.mem_cons, List.not_mem_nil, or_false] at hc
  rcases hc with rfl | rfl | rfl | rfl | rfl
  all_goals exact spellsChar_unicode rfl (by decide) (by decide)

/-- What is written for the sake of the script spells the same JSON. -/
theorem isRewriting_scriptSafeChar : IsRewriting scriptSafeChar where
  keeps := List.all_iff_forall_prop.mp (by decide)
  spells c := by
    by_cases hc : c ∈ scriptUnsafe
    · exact spellsChar_unsafe c hc
    · rw [flatMap_eq_self fun d hd ↦
        scriptSafeChar_of_notMem (notMem_scriptUnsafe_escapeChar hc d hd)]
      exact spellsChar_escapeChar c

/-- The literal of the script is read as the options. -/
theorem read_optionsLiteral (options : ViewerOptions) :
    Value.read (optionsLiteral options) = .ok options.toJson :=
  Value.read_print_rewritten isRewriting_scriptSafeChar
    (options.spellable_toJson.mono (by decide))

end Frontend

/-- The options are read back from their text. -/
theorem ViewerOptions.read_toText (options : ViewerOptions) :
    Value.read options.toJson.toText = .ok options.toJson :=
  Value.read_toText (options.spellable_toJson.mono (by decide))

end ApiReference
