import ChargeMate.FoundationCodes
import ChargeMate.ModelSearches

/-! Cache keys. The canonical text of a query is a code word, so that without collisions of the
digest a key belongs to one version and one query; and it is never the version key. -/

namespace ChargeMate

open Code

/-! ### String literals -/

theorem digitChar_inj {m n : Nat} (hm : m < 16) (hn : n < 16)
    (h : Nat.digitChar m = Nat.digitChar n) : m = n := by
  have hall : ∀ m < 16, ∀ n < 16, Nat.digitChar m = Nat.digitChar n → m = n := by decide
  exact hall m hm n hn h

theorem unicodeEscape_inj {m n : Nat} (hm : m < 65536) (hn : n < 65536) {r r' : List Char}
    (h : unicodeEscape m ++ r = unicodeEscape n ++ r') : m = n ∧ r = r' := by
  simp only [unicodeEscape, List.cons_append, List.nil_append, List.cons.injEq, true_and] at h
  obtain ⟨h₁, h₂, h₃, h₄, hr⟩ := h
  have hdigit : ∀ k l, Nat.digitChar (k % 16) = Nat.digitChar (l % 16) → k % 16 = l % 16 :=
    fun k l => digitChar_inj (Nat.mod_lt k (by decide)) (Nat.mod_lt l (by decide))
  have h₁ := hdigit _ _ h₁
  have h₂ := hdigit _ _ h₂
  have h₃ := hdigit _ _ h₃
  have h₄ := hdigit _ _ h₄
  exact ⟨by omega, hr⟩

theorem shortEscape_inj {a b letter : Char} (ha : shortEscape a = some letter)
    (hb : shortEscape b = some letter) : a = b := by
  unfold shortEscape at ha hb
  split at ha <;> split at hb <;> first | rfl | exact absurd (ha.trans hb.symm) (by decide) | cases ha

theorem shortEscape_ne_u {a letter : Char} (ha : shortEscape a = some letter) : letter ≠ 'u' := by
  unfold shortEscape at ha
  split at ha <;> simp_all <;> (subst ha; decide)

/-- A character is written as itself, with a letter, as one escape or as two surrogates. -/
theorem jsonChar_cases (c : Char) :
    (∃ letter, shortEscape c = some letter ∧ ∀ r, jsonChar c ++ r = '\\' :: letter :: r) ∨
    (c ≠ '\\' ∧ c ≠ '"' ∧ ∀ r, jsonChar c ++ r = c :: r) ∨
    (c.toNat < 0x10000 ∧ ∀ r, jsonChar c ++ r = unicodeEscape c.toNat ++ r) ∨
    (0x10000 ≤ c.toNat ∧ ∀ r, jsonChar c ++ r =
      unicodeEscape (0xd800 + (c.toNat - 0x10000) / 1024) ++
        (unicodeEscape (0xdc00 + (c.toNat - 0x10000) % 1024) ++ r)) := by
  unfold jsonChar
  cases hshort : shortEscape c with
  | some letter => exact Or.inl ⟨letter, rfl, fun _ => rfl⟩
  | none =>
      refine Or.inr ?_
      by_cases hplain : ' ' ≤ c ∧ c ≤ '~'
      · refine Or.inl ⟨?_, ?_, fun r => by rw [if_pos hplain]; rfl⟩
        · rintro rfl
          cases hshort
        · rintro rfl
          cases hshort
      · by_cases hbasic : c.toNat < 0x10000
        · exact Or.inr (Or.inl ⟨hbasic, fun r => by rw [if_neg hplain, if_pos hbasic]⟩)
        · refine Or.inr (Or.inr ⟨not_lt.mp hbasic, fun r => ?_⟩)
          rw [if_neg hplain, if_neg hbasic, List.append_assoc]

theorem letter_ne_unicode {letter : Char} (hletter : letter ≠ 'u') (n : Nat) (r r' : List Char) :
    '\\' :: letter :: r ≠ unicodeEscape n ++ r' := by
  intro heq
  exact hletter (List.cons.inj (List.cons.inj heq).2).1

theorem plain_ne_unicode {c : Char} (hc : c ≠ '\\') (n : Nat) (r r' : List Char) :
    c :: r ≠ unicodeEscape n ++ r' := by
  intro heq
  exact hc (List.cons.inj heq).1

theorem delimited_jsonChar : Delimited jsonChar := by
  intro a b r r' heq
  have hvalid : ∀ c : Char, c.toNat < 0xd800 ∨ 0xdfff < c.toNat ∧ c.toNat < 0x110000 :=
    fun c => c.valid
  have ha := hvalid a
  have hb := hvalid b
  rcases jsonChar_cases a with
    ⟨la, hla, hatext⟩ | ⟨haslash, _, hatext⟩ | ⟨habasic, hatext⟩ | ⟨hapair, hatext⟩ <;>
    rcases jsonChar_cases b with
      ⟨lb, hlb, hbtext⟩ | ⟨hbslash, _, hbtext⟩ | ⟨hbbasic, hbtext⟩ | ⟨hbpair, hbtext⟩ <;>
    rw [hatext, hbtext] at heq
  · obtain ⟨hletter, hr⟩ := List.cons.inj (List.cons.inj heq).2
    subst hletter
    exact ⟨shortEscape_inj hla hlb, hr⟩
  · exact absurd (List.cons.inj heq).1.symm hbslash
  · exact absurd heq (letter_ne_unicode (shortEscape_ne_u hla) _ _ _)
  · exact absurd heq (letter_ne_unicode (shortEscape_ne_u hla) _ _ _)
  · exact absurd (List.cons.inj heq).1 haslash
  · exact List.cons.inj heq
  · exact absurd heq (plain_ne_unicode haslash _ _ _)
  · exact absurd heq (plain_ne_unicode haslash _ _ _)
  · exact absurd heq.symm (letter_ne_unicode (shortEscape_ne_u hlb) _ _ _)
  · exact absurd heq.symm (plain_ne_unicode hbslash _ _ _)
  · obtain ⟨hcode, hr⟩ := unicodeEscape_inj habasic hbbasic heq
    exact ⟨Char.toNat_inj.mp hcode, hr⟩
  · -- a surrogate is no character
    obtain ⟨hcode, _⟩ := unicodeEscape_inj habasic (by omega) heq
    omega
  · exact absurd heq.symm (letter_ne_unicode (shortEscape_ne_u hlb) _ _ _)
  · exact absurd heq.symm (plain_ne_unicode hbslash _ _ _)
  · obtain ⟨hcode, _⟩ := unicodeEscape_inj (by omega) hbbasic heq
    omega
  · obtain ⟨hhigh, hrest⟩ := unicodeEscape_inj (by omega) (by omega) heq
    obtain ⟨hlow, hr⟩ := unicodeEscape_inj (by omega) (by omega) hrest
    exact ⟨Char.toNat_inj.mp (by omega), hr⟩

/-- No character is written with a bare quotation mark in front. -/
theorem quote_ne_jsonChar (c : Char) (r r' : List Char) : ['"'] ++ r ≠ jsonChar c ++ r' := by
  intro heq
  rcases jsonChar_cases c with ⟨_, _, htext⟩ | ⟨_, hquote, htext⟩ | ⟨_, htext⟩ | ⟨_, htext⟩ <;>
    rw [htext] at heq
  · exact absurd (List.cons.inj heq).1 (by decide)
  · exact hquote (List.cons.inj heq).1.symm
  · exact absurd (List.cons.inj heq).1 (by decide)
  · exact absurd (List.cons.inj heq).1 (by decide)

theorem delimited_jsonString : Delimited jsonString := by
  have hchars : Delimited fun s : String => s.toList.flatMap jsonChar ++ ['"'] :=
    (delimited_jsonChar.list quote_ne_jsonChar).comp fun _ _ h => String.toList_inj.mp h
  exact hchars.prepend ['"']

/-- A nullable value is written as `null` or in quotation marks. -/
theorem delimited_nullable {α : Type} {f : α → String} (hf : Function.Injective f) :
    Delimited (nullable fun x => jsonString (f x)) := by
  refine (delimited_jsonString.comp hf).option ?_
  intro x r r' heq
  exact absurd (List.cons.inj heq).1 (by decide)

/-! ### The canonical text -/

theorem connectorType_value_injective : Function.Injective ConnectorType.value := by
  intro a b h
  cases a <;> cases b <;> first | rfl | exact absurd h (by decide)

theorem toDigits_injective : Function.Injective (Nat.toDigits 10) := by
  intro m n h
  rw [← Nat.ofDigitChars_ten_toDigits (n := m), h, Nat.ofDigitChars_ten_toDigits]

theorem notMem_toDigits {c : Char} (hc : c.isDigit = false) (n : Nat) : c ∉ Nat.toDigits 10 n := by
  intro hmem
  rw [Nat.isDigit_of_mem_toDigits (by decide) (by decide) hmem] at hc
  cases hc

/-- A number in front of a comma. -/
theorem delimited_number : Delimited fun n => Nat.toDigits 10 n ++ [','] :=
  delimited_of_mark toDigits_injective (notMem_toDigits (by decide))

/-- The fields of a query in the order of their names, in the shape that the code rules take. -/
def StationSearchQuery.fields (q : StationSearchQuery) :=
  (q.city, q.connectorType, q.latitude, q.longitude, q.minPowerKw, q.page, q.perPage, q.radiusKm)

theorem fields_injective : Function.Injective StationSearchQuery.fields := by
  intro p q h
  cases p
  cases q
  simp only [StationSearchQuery.fields, Prod.mk.injEq] at h
  obtain ⟨rfl, rfl, rfl, rfl, rfl, rfl, rfl, rfl⟩ := h
  rfl

theorem canonicalQuery_injective {env : SearchEnv} (hdecimal : Function.Injective env.decimalStr) :
    Function.Injective (canonicalQuery env) := by
  have hcity := (delimited_nullable (f := id) Function.injective_id).prepend
    "\x7b\"city\":".toList
  have hconnector := (delimited_nullable connectorType_value_injective).prepend
    ",\"connector_type\":".toList
  have hnumber := fun name : String => (delimited_nullable hdecimal).prepend name.toList
  have hpage := delimited_number.prepend ",\"page\":".toList
  have hperPage := delimited_number.prepend "\"per_page\":".toList
  have hradius := ((delimited_nullable hdecimal).prepend "\"radius_km\":".toList).append
    "\x7d".toList
  have hall := hcity.pair (hconnector.pair ((hnumber ",\"latitude\":").pair
    ((hnumber ",\"longitude\":").pair ((hnumber ",\"min_power_kw\":").pair
      (hpage.pair (hperPage.pair hradius))))))
  have hfields := (hall.comp fields_injective).injective
  intro p q h
  apply hfields
  have htext := String.ofList_inj.mp h
  simpa [StationSearchQuery.fields, List.append_assoc] using htext

theorem canonicalQuery_head (env : SearchEnv) (query : StationSearchQuery) :
    (canonicalQuery env query).toList.head? = some '\x7b' := by
  unfold canonicalQuery
  rw [String.toList_ofList]
  simp only [List.append_assoc]
  rw [List.head?_append_of_ne_nil]
  · rfl
  · decide
/-! ### The keys -/

/-- What the argument takes from the functions of the environment: the text of a decimal determines
its tuple, and no two canonical queries have one digest. -/
structure SearchEnv.Faithful (env : SearchEnv) : Prop where
  decimalStr : Function.Injective env.decimalStr
  sha256Hex : ∀ p q, env.sha256Hex (canonicalQuery env p) = env.sha256Hex (canonicalQuery env q) →
    canonicalQuery env p = canonicalQuery env q

theorem toList_buildCacheKey (env : SearchEnv) (query : StationSearchQuery) (version : String) :
    (buildCacheKey env query version).toList = cacheKeyPrefix.toList ++ ':' :: 'v' ::
      (version.toList ++ ':' :: (env.sha256Hex (canonicalQuery env query)).toList) := by
  simp [buildCacheKey, String.toList_append]

/-- A key belongs to one query and one version. -/
theorem buildCacheKey_inj {env : SearchEnv} (henv : env.Faithful) {p q : StationSearchQuery}
    {m n : Nat} (h : buildCacheKey env p m.repr = buildCacheKey env q n.repr) : p = q ∧ m = n := by
  have htext := congrArg String.toList h
  rw [toList_buildCacheKey, toList_buildCacheKey, Nat.toList_repr, Nat.toList_repr] at htext
  have hrest := (List.cons.inj (List.cons.inj (List.append_cancel_left htext)).2).2
  obtain ⟨hversion, hdigest⟩ :=
    append_mark_inj (notMem_toDigits (by decide) m) (notMem_toDigits (by decide) n) hrest
  have hcanonical := henv.sha256Hex p q (String.toList_inj.mp hdigest)
  exact ⟨canonicalQuery_injective henv.decimalStr hcanonical, toDigits_injective hversion⟩

theorem buildCacheKey_ne_version (env : SearchEnv) (query : StationSearchQuery) (version : String) :
    buildCacheKey env query version ≠ cacheVersionKey := by
  intro h
  have htext := congrArg String.toList h
  have hkey : cacheVersionKey.toList = cacheKeyPrefix.toList ++ ":version".toList := by decide
  rw [toList_buildCacheKey, hkey] at htext
  -- the rest of an entry's key has a second colon
  have hrest := List.append_cancel_left htext
  have hcolon : ':' ∈ "ersion".toList := by
    have htail : version.toList ++ ':' :: (env.sha256Hex (canonicalQuery env query)).toList =
        "ersion".toList := (List.cons.inj (List.cons.inj hrest).2).2
    rw [← htail]
    simp
  exact absurd hcolon (by decide)

end ChargeMate
