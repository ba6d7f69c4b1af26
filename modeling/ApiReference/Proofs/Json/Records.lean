import ApiReference.Proofs.Json.Tokens

/-!
# Texts That Spell Records

A record is spelled by an object of its members or by a list of their values.  A strict record is
accepted just where every key is known and none comes twice, or where the values stand in the order
of the members, and where no required member is missing.
-/

namespace ApiReference.Json.Reader

open Decode

variable {ρ : Type} {shape : Shape Reader ρ}
  {spells : String → (ρ → ρ) → List (List Char) → Prop} {text rest : List Char}

/-! ## Members of objects -/

/-- The tokens of a member: its key, a colon and its value. -/
inductive SpellsMember (shape : Shape Reader ρ)
    (spells : String → (ρ → ρ) → List (List Char) → Prop) :
    String × (ρ → ρ) → List (List Char) → Prop
  | intro {key : String} {update : ρ → ρ} {keyToken : List Char} {tokens : List (List Char)}
    (hknown : key ∈ shape.keys) (hkey : IsQuoted keyToken key) (hvalue : spells key update tokens) :
    SpellsMember shape spells (key, update) (keyToken :: [':'] :: tokens)

/-- The record after some members, and their keys with the latest first. -/
def takeMembers (state : ρ × List String) (members : List (String × (ρ → ρ))) :
    ρ × List String :=
  members.foldl (fun state member ↦ (member.2 state.1, member.1 :: state.2)) state

theorem takeMembers_snd (state : ρ × List String) (members : List (String × (ρ → ρ))) :
    (takeMembers state members).2 = (members.map Prod.fst).reverse ++ state.2 := by
  induction members generalizing state with
  | nil => rfl
  | cons member members ih =>
    rw [takeMembers, List.foldl_cons, List.map_cons, List.reverse_cons, List.append_assoc]
    exact ih (member.2 state.1, member.1 :: state.2)

/-- How the values of a record are read: as they are spelled. -/
def ReadsMembers (shape : Shape Reader ρ)
    (spells : String → (ρ → ρ) → List (List Char) → Prop) : Prop :=
  ∀ member ∈ shape.members, Accepts member.update (spells member.key)

theorem exists_member {key : String} (h : key ∈ shape.keys) :
    ∃ member, shape.member? key = some member := by
  obtain ⟨member, hmember, rfl⟩ := List.mem_map.mp h
  apply Option.isSome_iff_exists.mp
  rw [Shape.member?, List.find?_isSome]
  exact ⟨member, hmember, beq_self_eq_true _⟩

theorem mem_of_member? {key : String} {member : Member Reader ρ}
    (h : shape.member? key = some member) : member ∈ shape.members ∧ member.key = key :=
  ⟨List.mem_of_find?_eq_some h, by simpa using List.find?_some h⟩

/-- A member of a strict record is taken if its key is known and new. -/
theorem on_recordMember_eq_ok_iff (hstrict : shape.strict = true)
    (hreads : ReadsMembers shape spells) {state state' : ρ × List String} {key : String} :
    (recordMember shape state key).on text = (.ok state', rest) ↔
      ∃ update tokens, key ∈ shape.keys ∧ key ∉ state.2 ∧ spells key update tokens ∧
        Spaced ([':'] :: tokens) text rest ∧ state' = (update state.1, key :: state.2) := by
  rw [recordMember]
  cases hmember : shape.member? key with
  | none =>
    simp only [hstrict, if_true]
    apply iff_of_false
    · exact Gives.mismatch (P := fun _ ↦ False) _ text rest state'
    · rintro ⟨update, tokens, hknown, -⟩
      obtain ⟨member, hsome⟩ := exists_member hknown
      rw [hmember] at hsome
      cases hsome
  | some member =>
    obtain ⟨hmem, rfl⟩ := mem_of_member? hmember
    have hknown : member.key ∈ shape.keys := List.mem_map_of_mem hmem
    dsimp only
    by_cases hseen : member.key ∈ state.2
    · rw [if_pos (List.contains_iff_mem.mpr hseen)]
      apply iff_of_false
      · exact Gives.mismatch (P := fun _ ↦ False) _ text rest state'
      · rintro ⟨update, tokens, -, hnew, -⟩
        exact hnew hseen
    · rw [if_neg (mt List.contains_iff_mem.mp hseen)]
      constructor
      · intro h
        obtain ⟨_, mid, hcolon, h⟩ := on_bind_eq_ok_iff.mp h
        obtain ⟨update, last, hupdate, h⟩ := on_bind_eq_ok_iff.mp h
        cases h
        obtain ⟨tokens, hvalue, htokens⟩ := ((hreads member hmem).on_iff _ _ _).mp hupdate
        have hspaced := ((takesMark_colon _ _).mp hcolon).append htokens
        exact ⟨update, tokens, hknown, hseen, hvalue, hspaced, rfl⟩
      · rintro ⟨update, tokens, -, -, hvalue, hspaced, rfl⟩
        have htokens : Spaced ([[':']] ++ tokens) text rest := hspaced
        obtain ⟨mid, hcolon, htokens⟩ := Spaced.append_iff.mp htokens
        rw [on_bind_of_ok ((takesMark_colon _ _).mpr hcolon),
          on_bind_of_ok (((hreads member hmem).on_iff _ _ _).mpr ⟨tokens, hvalue, htokens⟩)]
        rfl

section

variable {members : List (String × (ρ → ρ))} {tokens : List (List Char)}
  {state state' : ρ × List String} {first : Bool} {fuel : Nat}

/-- The members that are taken are spelled one after another up to the brace, and no key twice. -/
theorem exists_of_foldMembers_go (hstrict : shape.strict = true)
    (hreads : ReadsMembers shape spells) (hseen : state.2.Nodup)
    (hgo : (foldMembers.go (recordMember shape) fuel first state).on text = (.ok state', rest)) :
    ∃ members tokens mid, Separated (SpellsMember shape spells) first members tokens ∧
      Spaced tokens text mid ∧ mid.dropWhile isBlank = rest ∧ (∃ tail, rest = '\x7d' :: tail) ∧
      state' = takeMembers state members ∧ state'.2.Nodup := by
  induction fuel generalizing first text state with
  | zero => exact absurd hgo (not_on_malformed _ _ _)
  | succ fuel ih =>
    rw [foldMembers.go] at hgo
    obtain ⟨more, mid, hnext, hgo⟩ := on_bind_eq_ok_iff.mp hgo
    cases on_nextMember_eq_ok_iff.mp hnext with
    | @last tail hclose =>
      cases hgo
      exact ⟨[], [], text, .nil first, .nil text, hclose, ⟨tail, rfl⟩, rfl, hseen⟩
    | @more mid tail c hseparator hbegin hc =>
      simp only [if_true] at hgo
      subst hc
      obtain ⟨key, between, hkey, hgo⟩ := on_bind_eq_ok_iff.mp hgo
      obtain ⟨state, after, hmember, hgo⟩ := on_bind_eq_ok_iff.mp hgo
      obtain ⟨keyToken, hkeyToken, heq⟩ := on_key_eq_ok_iff.mp hkey
      obtain ⟨update, tokens, hknown, hnew, hvalue, htokens, rfl⟩ :=
        (on_recordMember_eq_ok_iff hstrict hreads).mp hmember
      obtain ⟨members, tokens', last, hmembers, htokens', hrest⟩ :=
        ih (List.nodup_cons.mpr ⟨hnew, hseen⟩) hgo
      obtain ⟨blanks, hblanks, hmid⟩ := exists_blanks mid
      rw [hbegin, heq] at hmid
      have hspaced : Spaced (keyToken :: [':'] :: tokens) mid after := by
        rw [hmid]
        exact .cons hblanks htokens
      exact ⟨(key, update) :: members, _, last, .cons (.intro hknown hkeyToken hvalue) hmembers,
        hseparator.append (hspaced.append htokens'), hrest⟩

/-- Members that are spelled one after another up to the brace are taken if no key comes twice. -/
theorem on_foldMembers_go_of_separated (hstrict : shape.strict = true)
    (hreads : ReadsMembers shape spells)
    (hmembers : Separated (SpellsMember shape spells) first members tokens)
    (hkeys : (takeMembers state members).2.Nodup) {mid tail : List Char}
    (htokens : Spaced tokens text mid) (hclose : mid.dropWhile isBlank = '\x7d' :: tail)
    (hfuel : members.length < fuel) :
    (foldMembers.go (recordMember shape) fuel first state).on text =
      (.ok (takeMembers state members), '\x7d' :: tail) := by
  induction hmembers generalizing text state fuel with
  | nil first =>
    obtain ⟨fuel, rfl⟩ := Nat.exists_eq_add_one.mpr hfuel
    cases htokens
    rw [foldMembers.go, on_bind_of_ok (on_nextMember_eq_ok_iff.mpr (.last hclose))]
    rfl
  | @cons first member members tokens tokens' hmember hmembers ih =>
    obtain ⟨fuel, rfl⟩ := Nat.exists_eq_add_one.mpr (Nat.zero_lt_of_lt hfuel)
    obtain ⟨between, hseparator, htokens⟩ := Spaced.append_iff.mp htokens
    obtain ⟨after, htokens, htokens'⟩ := Spaced.append_iff.mp htokens
    cases hmember with
    | @intro key update keyToken tokens hknown hkey hvalue =>
      have hnew : key ∉ state.2 := by
        have hseen : (takeMembers (update state.1, key :: state.2) members).2.Nodup := hkeys
        rw [takeMembers_snd, List.nodup_append] at hseen
        exact (List.nodup_cons.mp hseen.2.1).1
      obtain ⟨body, hbody, rfl⟩ := hkey
      obtain ⟨tail', hbegin, htokens⟩ := (Spaced.cons_iff (by decide)).mp htokens
      have hnext := on_nextMember_eq_ok_iff.mpr (.more hseparator hbegin rfl)
      have hkey : Reader.key.on ('"' :: (body ++ ['"'] ++ tail')) = (.ok key, tail') :=
        on_key_eq_ok_iff.mpr ⟨'"' :: (body ++ ['"']), ⟨body, hbody, rfl⟩, rfl⟩
      have hmember : (recordMember shape state key).on tail' =
          (.ok (update state.1, key :: state.2), after) :=
        (on_recordMember_eq_ok_iff hstrict hreads).mpr
          ⟨update, tokens, hknown, hnew, hvalue, htokens, rfl⟩
      rw [foldMembers.go, on_bind_of_ok hnext]
      simp only [if_true]
      rw [on_bind_of_ok hkey, on_bind_of_ok hmember]
      exact ih hkeys htokens' (Nat.lt_of_succ_lt_succ hfuel)

theorem length_le_of_separated
    (hmembers : Separated (SpellsMember shape spells) first members tokens) :
    members.length ≤ tokens.flatten.length := by
  induction hmembers with
  | nil => exact Nat.zero_le _
  | @cons first member members tokens tokens' hmember _ ih =>
    cases hmember with
    | intro _ hkey _ =>
      obtain ⟨body, -, rfl⟩ := hkey
      simp only [List.flatten_append, List.flatten_cons, List.length_append, List.length_cons]
      omega

end

/-! ## Objects -/

/-- Every required member has one of some keys. -/
def HasRequired (shape : Shape Reader ρ) (keys : List String) : Prop :=
  ∀ member ∈ shape.members, member.required = true → member.key ∈ keys

/-- Nothing is missing once all that is required has been seen. -/
theorem missing?_eq_none_iff {seen : List String} :
    shape.missing? seen = none ↔ HasRequired shape seen := by
  simp [Shape.missing?, HasRequired]

/-- Members that make up a record: no key comes twice and no required one is missing. -/
structure Completes (shape : Shape Reader ρ) (members : List (String × (ρ → ρ))) (record : ρ) :
    Prop where
  distinct : (members.map Prod.fst).Nodup
  required : HasRequired shape (members.map Prod.fst)
  result : (takeMembers (shape.initial, []) members).1 = record

/-- The tokens of an object that spells a record: members between braces. -/
def SpellsObject (shape : Shape Reader ρ)
    (spells : String → (ρ → ρ) → List (List Char) → Prop) (record : ρ)
    (tokens : List (List Char)) : Prop :=
  ∃ members inner, Completes shape members record ∧
    Separated (SpellsMember shape spells) true members inner ∧
    tokens = ['\x7b'] :: (inner ++ [['\x7d']])

theorem hasRequired_reverse {keys : List String} :
    HasRequired shape keys.reverse ↔ HasRequired shape keys := by
  simp only [HasRequired, List.mem_reverse]

theorem exists_of_recordMembers (hstrict : shape.strict = true)
    (hreads : ReadsMembers shape spells) {record : ρ}
    (h : (recordMembers shape).on text = (.ok record, rest)) :
    ∃ members inner mid, Completes shape members record ∧
      Separated (SpellsMember shape spells) true members inner ∧ Spaced inner text mid ∧
      mid.dropWhile isBlank = rest := by
  obtain ⟨⟨made, seen⟩, last, hfold, h⟩ := on_bind_eq_ok_iff.mp h
  rw [foldMembers, on_bind_of_ok (on_fuel text)] at hfold
  obtain ⟨members, inner, mid, hmembers, hinner, hmid, -, htaken, hdistinct⟩ :=
    exists_of_foldMembers_go hstrict hreads List.nodup_nil hfold
  have hseen : seen = (members.map Prod.fst).reverse := by
    rw [← List.append_nil (List.reverse _), ← takeMembers_snd (shape.initial, []), ← htaken]
  cases hmissing : shape.missing? seen with
  | some key =>
    simp only [hmissing] at h
    exact absurd h (Gives.mismatch (P := fun _ ↦ False) _ last rest record)
  | none =>
    simp only [hmissing] at h
    cases h
    rw [missing?_eq_none_iff, hseen, hasRequired_reverse] at hmissing
    dsimp only at hdistinct
    rw [hseen, List.nodup_reverse] at hdistinct
    exact ⟨members, inner, mid, ⟨hdistinct, hmissing, congrArg Prod.fst htaken.symm⟩, hmembers,
      hinner, hmid⟩

theorem on_recordMembers_of_completes (hstrict : shape.strict = true)
    (hreads : ReadsMembers shape spells) {record : ρ} {members : List (String × (ρ → ρ))}
    (hcompletes : Completes shape members record) {inner : List (List Char)}
    (hmembers : Separated (SpellsMember shape spells) true members inner) {mid tail : List Char}
    (hinner : Spaced inner text mid) (hclose : mid.dropWhile isBlank = '\x7d' :: tail) :
    (recordMembers shape).on text = (.ok record, '\x7d' :: tail) := by
  have hseen : (takeMembers (shape.initial, []) members).2 = (members.map Prod.fst).reverse := by
    rw [takeMembers_snd, List.append_nil]
  have hkeys : (takeMembers (shape.initial, []) members).2.Nodup := by
    rw [hseen, List.nodup_reverse]
    exact hcompletes.distinct
  have hmissing : shape.missing? (takeMembers (shape.initial, []) members).2 = none := by
    rw [missing?_eq_none_iff, hseen, hasRequired_reverse]
    exact hcompletes.required
  have hfuel : members.length < text.length + 1 := by
    have hmembers := length_le_of_separated hmembers
    have hinner := hinner.length_le
    omega
  have hfold : (foldMembers (recordMember shape) (shape.initial, [])).on text =
      (.ok (takeMembers (shape.initial, []) members), '\x7d' :: tail) := by
    rw [foldMembers, on_bind_of_ok (on_fuel text)]
    exact on_foldMembers_go_of_separated hstrict hreads hmembers hkeys hinner hclose hfuel
  rw [recordMembers, on_bind_of_ok hfold]
  dsimp only
  rw [hmissing, hcompletes.result]
  rfl

/-! ## Lists of values -/

/-- The tokens of the values of some members in order, with the separator before each of them.  The
members that are left over are not required. -/
inductive SpellsValues (spells : String → (ρ → ρ) → List (List Char) → Prop) :
    List (Member Reader ρ) → Bool → List (ρ → ρ) → List (List Char) → Prop
  | done {members : List (Member Reader ρ)} (first : Bool)
    (hleft : ∀ member ∈ members, member.required = false) : SpellsValues spells members first [] []
  | cons {member : Member Reader ρ} {members : List (Member Reader ρ)} {first : Bool}
    {update : ρ → ρ} {updates : List (ρ → ρ)} {tokens tokens' : List (List Char)}
    (hvalue : spells member.key update tokens)
    (hvalues : SpellsValues spells members false updates tokens') :
    SpellsValues spells (member :: members) first (update :: updates)
      (separator first ++ (tokens ++ tokens'))

/-- The tokens of a list that spells a record: values between brackets. -/
def SpellsListed (shape : Shape Reader ρ)
    (spells : String → (ρ → ρ) → List (List Char) → Prop) (record : ρ)
    (tokens : List (List Char)) : Prop :=
  ∃ updates inner, SpellsValues spells shape.members true updates inner ∧
    record = updates.foldl (fun record update ↦ update record) shape.initial ∧
    tokens = ['['] :: (inner ++ [[']']])

section

variable {members : List (Member Reader ρ)} {index : Nat} {initial record : ρ}

theorem exists_of_recordItems
    (hreads : ∀ member ∈ members, Accepts member.update (spells member.key))
    (h : (recordItems shape members index initial).on text = (.ok record, rest)) :
    ∃ updates inner mid, SpellsValues spells members (index == 0) updates inner ∧
      record = updates.foldl (fun record update ↦ update record) initial ∧
      Spaced inner text mid ∧ mid.dropWhile isBlank = rest.dropWhile isBlank := by
  induction members generalizing index initial text with
  | nil =>
    cases h
    exact ⟨[], [], _, .done _ (by simp), rfl, .nil _, rfl⟩
  | cons member members ih =>
    obtain ⟨hmember, hmembers⟩ := List.forall_mem_cons.mp hreads
    rw [recordItems] at h
    obtain ⟨more, mid, hnext, h⟩ := on_bind_eq_ok_iff.mp h
    cases on_nextItem_eq_ok_iff.mp hnext with
    | @last tail hclose =>
      simp only [Bool.false_eq_true, if_false] at h
      cases hleft : (member :: members).findIdx? Member.required with
      | some offset =>
        rw [hleft] at h
        exact absurd h (Gives.mismatch (P := fun _ ↦ False) _ _ rest record)
      | none =>
        rw [hleft] at h
        cases h
        refine ⟨[], [], _, .done _ (List.findIdx?_eq_none_iff.mp hleft), rfl, .nil _, ?_⟩
        rw [hclose, dropWhile_eq_self (by decide)]
    | @more mid tail c hseparator hbegin hc =>
      simp only [if_true] at h
      obtain ⟨update, between, hupdate, h⟩ := on_bind_eq_ok_iff.mp h
      obtain ⟨tokens, hvalue, htokens⟩ := (hmember.on_iff _ _ _).mp hupdate
      rw [← hbegin, hmember.dropWhile_iff hvalue] at htokens
      obtain ⟨updates, inner, last, hvalues, hrecord, hinner, hrest⟩ := ih hmembers h
      exact ⟨update :: updates, _, last, .cons hvalue hvalues, hrecord,
        hseparator.append (htokens.append hinner), hrest⟩

theorem on_recordItems_of_spelled (initial : ρ)
    (hreads : ∀ member ∈ members, Accepts member.update (spells member.key)) {first : Bool}
    (hfirst : (index == 0) = first) {updates : List (ρ → ρ)} {inner : List (List Char)}
    (hvalues : SpellsValues spells members first updates inner) {mid tail : List Char}
    (hinner : Spaced inner text mid) (hclose : mid.dropWhile isBlank = ']' :: tail) :
    ∃ rest, (recordItems shape members index initial).on text =
      (.ok (updates.foldl (fun record update ↦ update record) initial), rest) ∧
      rest.dropWhile isBlank = ']' :: tail := by
  induction hvalues generalizing text index initial with
  | @done members first hleft =>
    cases hinner
    cases members with
    | nil => exact ⟨mid, rfl, hclose⟩
    | cons member members =>
      refine ⟨']' :: tail, ?_, dropWhile_eq_self (by decide) tail⟩
      rw [recordItems, on_bind_of_ok (on_nextItem_eq_ok_iff.mpr (.last hclose))]
      simp only [Bool.false_eq_true, if_false]
      rw [List.findIdx?_eq_none_iff.mpr hleft]
      rfl
  | @cons member members first update updates tokens tokens' hvalue hvalues ih =>
    obtain ⟨hmember, hmembers⟩ := List.forall_mem_cons.mp hreads
    obtain ⟨between, hseparator, htokens⟩ := Spaced.append_iff.mp hinner
    obtain ⟨after, htokens, htokens'⟩ := Spaced.append_iff.mp htokens
    have hupdate : member.update.on (between.dropWhile isBlank) = (.ok update, after) :=
      (hmember.on_iff _ _ _).mpr ⟨tokens, hvalue, (hmember.dropWhile_iff hvalue).mpr htokens⟩
    obtain ⟨c, token, others, rfl, hblank, hc⟩ := hmember.begins update tokens hvalue
    obtain ⟨tail', hbegin, -⟩ := (Spaced.cons_iff hblank).mp htokens
    have hnext : (nextItem first).on text = (.ok true, between.dropWhile isBlank) := by
      rw [hbegin]
      exact on_nextItem_eq_ok_iff.mpr (.more hseparator hbegin hc)
    rw [recordItems, hfirst, on_bind_of_ok hnext]
    simp only [if_true]
    rw [on_bind_of_ok hupdate]
    exact ih _ hmembers rfl htokens'

end

/-! ## Records -/

/-- The tokens of a record, in one form or the other. -/
def SpellsRecord (shape : Shape Reader ρ)
    (spells : String → (ρ → ρ) → List (List Char) → Prop) (record : ρ)
    (tokens : List (List Char)) : Prop :=
  SpellsObject shape spells record tokens ∨ SpellsListed shape spells record tokens

/-- A strict record is accepted just where it is spelled. -/
theorem accepts_record (hstrict : shape.strict = true) (hreads : ReadsMembers shape spells) :
    Accepts (record shape) (SpellsRecord shape spells) where
  on_iff text rest made := by
    rw [record, on_value_eq_ok_iff]
    constructor
    · rintro ⟨c, tail, htext, hread⟩
      split_ifs at hread with hbracket hbrace
      · subst hbracket
        rw [enclosedList, on_advance_cons, on_closing_eq_ok_iff] at hread
        obtain ⟨last, hitems, hclose⟩ := hread
        obtain ⟨updates, inner, mid, hvalues, hmade, hinner, hmid⟩ :=
          exists_of_recordItems hreads hitems
        have hend : Spaced [[']']] mid rest := by
          rw [Spaced.mark_iff (by decide), hmid]
          exact (Spaced.mark_iff (by decide)).mp ((takesMark_closeList _ _).mp hclose)
        exact ⟨_, .inr ⟨updates, inner, hvalues, hmade, rfl⟩,
          (Spaced.cons_iff (by decide)).mpr ⟨tail, htext, hinner.append hend⟩⟩
      · subst hbrace
        rw [enclosedObject, on_advance_cons, on_closing_eq_ok_iff] at hread
        obtain ⟨last, hbody, hclose⟩ := hread
        obtain ⟨members, inner, mid, hcompletes, hmembers, hinner, hmid⟩ :=
          exists_of_recordMembers hstrict hreads hbody
        have hend : Spaced [['\x7d']] mid rest := by
          rw [← Spaced.dropWhile_iff (by decide), hmid]
          exact (takesMark_closeObject _ _).mp hclose
        exact ⟨_, .inl ⟨members, inner, hcompletes, hmembers, rfl⟩,
          (Spaced.cons_iff (by decide)).mpr ⟨tail, htext, hinner.append hend⟩⟩
      · exact absurd hread (not_on_wrongType _ c made)
    · rintro ⟨_, ⟨members, inner, hcompletes, hmembers, rfl⟩ |
        ⟨updates, inner, hvalues, rfl, rfl⟩, hspaced⟩
      · obtain ⟨tail, htext, hspaced⟩ := (Spaced.cons_iff (by decide)).mp hspaced
        obtain ⟨mid, hinner, hend⟩ := Spaced.append_iff.mp hspaced
        have hclose : mid.dropWhile isBlank = '\x7d' :: rest :=
          (Spaced.mark_iff (by decide)).mp hend
        have hbody := on_recordMembers_of_completes hstrict hreads hcompletes hmembers hinner hclose
        refine ⟨'\x7b', tail, htext, ?_⟩
        rw [if_neg (by decide), if_pos rfl, enclosedObject, on_advance_cons]
        exact on_closing_of_ok hbody (on_closeObject rest)
      · obtain ⟨tail, htext, hspaced⟩ := (Spaced.cons_iff (by decide)).mp hspaced
        obtain ⟨mid, hinner, hend⟩ := Spaced.append_iff.mp hspaced
        have hclose : mid.dropWhile isBlank = ']' :: rest :=
          (Spaced.mark_iff (by decide)).mp hend
        have hfirst : ((0 : Nat) == 0) = true := rfl
        obtain ⟨last, hitems, hlast⟩ :=
          on_recordItems_of_spelled shape.initial hreads hfirst hvalues hinner hclose
        refine ⟨'[', tail, htext, ?_⟩
        rw [if_pos rfl, enclosedList, on_advance_cons]
        exact on_closing_of_ok hitems
          ((takesMark_closeList _ _).mpr ((Spaced.mark_iff (by decide)).mpr hlast))
  begins made tokens := by
    rintro (⟨members, inner, -, -, rfl⟩ | ⟨updates, inner, -, -, rfl⟩)
    · exact ⟨'\x7b', [], _, rfl, by decide, by decide⟩
    · exact ⟨'[', [], _, rfl, by decide, by decide⟩

end ApiReference.Json.Reader
