import PluralRules.Proofs.Selector
import PluralRules.Proofs.Text.ByteLength
import PluralRules.Proofs.Text.Edits

/-!
Which codes are suggested for a name: those that the fewest edits lead to, of equally close ones
those listed first, and three at most. A code is known by its place in the list, since the list may
hold it more than once. The limit on the edits goes by the bytes of the name, not its characters.
-/

namespace PluralRules

section

variable {α : Type} {key : α → ℕ}

def Precedes [LT α] (key : α → ℕ) (a b : α) : Prop :=
  key a < key b ∨ key a = key b ∧ a < b

def keyLe (key : α → ℕ) (a b : α) : Bool :=
  key a ≤ key b

theorem keyLe_trans (a b c : α) (hab : keyLe key a b = true) (hbc : keyLe key b c = true) :
    keyLe key a c = true :=
  decide_eq_true ((of_decide_eq_true hab).trans (of_decide_eq_true hbc))

theorem keyLe_total (a b : α) : (keyLe key a b || keyLe key b a) = true := by
  simpa [keyLe] using Nat.le_total (key a) (key b)

theorem filter_mergeSort (l : List α) (k : ℕ) :
    (l.mergeSort (keyLe key)).filter (fun a => key a = k) = l.filter fun a => key a = k := by
  have hequal : (l.filter fun a => key a = k).Pairwise fun a b => keyLe key a b = true := by
    apply List.pairwise_of_forall_mem_list
    intro a ha b hb
    have hka : key a = k := of_decide_eq_true (List.mem_filter.mp ha).2
    have hkb : key b = k := of_decide_eq_true (List.mem_filter.mp hb).2
    exact decide_eq_true (hka.trans hkb.symm).le
  have hkept := List.sublist_mergeSort keyLe_trans keyLe_total hequal List.filter_sublist
  have hfiltered := hkept.filter fun a => key a = k
  rw [List.filter_filter] at hfiltered
  simp only [Bool.and_self] at hfiltered
  have hperm := (List.mergeSort_perm l (keyLe key)).filter fun a => key a = k
  exact (hfiltered.eq_of_length hperm.length_eq.symm).symm

theorem pairwise_precedes_mergeSort [LT α] {l : List α} (h : l.Pairwise (· < ·)) :
    (l.mergeSort (keyLe key)).Pairwise (Precedes key) := by
  have hsorted : (l.mergeSort (keyLe key)).Pairwise fun a b => keyLe key a b = true :=
    List.pairwise_mergeSort keyLe_trans keyLe_total l
  rw [List.pairwise_iff_forall_sublist]
  intro a b hab
  have hle : key a ≤ key b :=
    of_decide_eq_true (List.pairwise_iff_forall_sublist.mp hsorted hab)
  rcases hle.lt_or_eq with hlt | heq
  · exact .inl hlt
  · refine .inr ⟨heq, ?_⟩
    -- Two of one key stand in the sorted list as they stand in the list.
    have hfiltered := hab.filter fun c => key c = key b
    rw [filter_mergeSort] at hfiltered
    have hboth : [a, b].Sublist (l.filter fun c => key c = key b) := by
      simpa [heq] using hfiltered
    exact List.pairwise_iff_forall_sublist.mp h (hboth.trans List.filter_sublist)

end

theorem length_take_of_notMem {α : Type} {R : α → α → Prop} {l : List α} (h : l.Pairwise R)
    {k : ℕ} {a : α} (ha : a ∈ l) (hnot : a ∉ l.take k) :
    (l.take k).length = k ∧ ∀ b ∈ l.take k, R b a := by
  have hsplit : l.take k ++ l.drop k = l := List.take_append_drop k l
  have hdrop : a ∈ l.drop k := by
    rw [← hsplit] at ha
    exact (List.mem_append.mp ha).resolve_left hnot
  constructor
  · have hpos : 0 < (l.drop k).length := List.length_pos_of_mem hdrop
    rw [List.length_drop] at hpos
    rw [List.length_take]
    omega
  · rw [← hsplit] at h
    exact fun b hb => (List.pairwise_append.mp h).2.2 b hb a hdrop

def IsNear (name : String) (known : List String) (i : Fin known.length) : Prop :=
  known.get i ≠ name ∧
    ∃ n ≤ suggestionLimit name, Text.Edits n name.toList (known.get i).toList

/-- Three places at most, the closest near ones, of equally close ones the earlier. -/
structure ClosestPlaces (name : String) (known : List String) (distance : Fin known.length → ℕ)
    (places : List (Fin known.length)) : Prop where
  isLeast : ∀ i, IsLeast {n | Text.Edits n name.toList (known.get i).toList} (distance i)
  length_le : places.length ≤ 3
  nodup : places.Nodup
  near : ∀ i ∈ places, IsNear name known i
  ordered : places.Pairwise (Precedes distance)
  complete : ∀ i, IsNear name known i → i ∉ places →
    places.length = 3 ∧ ∀ j ∈ places, Precedes distance j i

/-- All suggestions need at least one edit, and at most as many as the limit. -/
def SuggestsWithin (limit : ℕ) (name : String) (known : List String) : Prop :=
  ∀ code ∈ suggestions name known,
    ∃ n, IsLeast {n | Text.Edits n name.toList code.toList} n ∧ 1 ≤ n ∧ n ≤ limit

section

variable (name : String) (known : List String)

def distanceTo (i : Fin known.length) : ℕ :=
  Text.editDistance name.toList (known.get i).toList

def nearPlaces : List (Fin known.length) :=
  (List.finRange known.length).filter fun i =>
    0 < distanceTo name known i && distanceTo name known i ≤ suggestionLimit name

def rankedPlaces : List (Fin known.length) :=
  (nearPlaces name known).mergeSort (keyLe (distanceTo name known))

variable {name known}

theorem isNear_iff {i : Fin known.length} :
    IsNear name known i ↔
      0 < distanceTo name known i ∧ distanceTo name known i ≤ suggestionLimit name := by
  have hzero : distanceTo name known i = 0 ↔ known.get i = name := by
    rw [distanceTo, Text.editDistance_eq_zero_iff, String.toList_inj, eq_comm]
  rw [IsNear, Nat.pos_iff_ne_zero, ne_eq, ne_eq, hzero]
  refine and_congr_right fun _ => ⟨?_, fun hle => ⟨_, hle, Text.edits_editDistance _ _⟩⟩
  rintro ⟨n, hle, hedits⟩
  exact hedits.editDistance_le.trans hle

theorem mem_rankedPlaces_iff {i : Fin known.length} :
    i ∈ rankedPlaces name known ↔ IsNear name known i := by
  rw [rankedPlaces, (List.mergeSort_perm _ _).mem_iff, nearPlaces, List.mem_filter,
    Bool.and_eq_true, decide_eq_true_iff, decide_eq_true_iff, isNear_iff]
  exact and_iff_right (List.mem_finRange i)

variable (name known)

theorem nodup_rankedPlaces : (rankedPlaces name known).Nodup :=
  (List.mergeSort_perm _ _).nodup_iff.mpr ((List.nodup_finRange known.length).filter _)

theorem pairwise_rankedPlaces :
    (rankedPlaces name known).Pairwise (Precedes (distanceTo name known)) :=
  pairwise_precedes_mergeSort ((List.pairwise_lt_finRange known.length).filter _)

theorem nearCodes_eq :
    nearCodes name known =
      (nearPlaces name known).map fun i => (distanceTo name known i, known.get i) := by
  conv_lhs => rw [nearCodes, ← List.map_get_finRange known, List.map_map, List.filter_map]
  rfl

theorem suggestions_eq :
    suggestions name known = ((rankedPlaces name known).take 3).map known.get := by
  have hsorted : (rankedPlaces name known).map (fun i => (distanceTo name known i, known.get i)) =
      (nearCodes name known).mergeSort fun a b => a.1 ≤ b.1 := by
    rw [nearCodes_eq]
    exact List.map_mergeSort fun _ _ _ _ => rfl
  rw [suggestions, ← hsorted, ← List.map_take, List.map_map]
  rfl

theorem closestPlaces_take_rankedPlaces :
    ClosestPlaces name known (distanceTo name known) ((rankedPlaces name known).take 3) where
  isLeast _ := Text.isLeast_editDistance _ _
  length_le := List.length_take_le 3 _
  nodup := (nodup_rankedPlaces name known).sublist (List.take_sublist 3 _)
  near _ hi := mem_rankedPlaces_iff.mp (List.mem_of_mem_take hi)
  ordered := (pairwise_rankedPlaces name known).sublist (List.take_sublist 3 _)
  complete _ hi hnot := length_take_of_notMem (pairwise_rankedPlaces name known)
    (mem_rankedPlaces_iff.mpr hi) hnot

theorem mem_of_mem_suggestions {code : String} (h : code ∈ suggestions name known) :
    code ∈ known := by
  rw [suggestions_eq] at h
  obtain ⟨i, -, rfl⟩ := List.mem_map.mp h
  exact List.get_mem known i

theorem suggestsWithin_suggestionLimit : SuggestsWithin (suggestionLimit name) name known := by
  intro code hcode
  rw [suggestions_eq] at hcode
  obtain ⟨i, hi, rfl⟩ := List.mem_map.mp hcode
  obtain ⟨hpos, hle⟩ := isNear_iff.mp (mem_rankedPlaces_iff.mp (List.mem_of_mem_take hi))
  exact ⟨distanceTo name known i, Text.isLeast_editDistance _ _, hpos, hle⟩

end

theorem RuleTable.categoryFor_of_mem_suggestions {table : RuleTable} {locale : String}
    {x : Operand} {unknown : UnknownLocale} (h : table.categoryFor locale x = .error unknown)
    {code : String} (hcode : code ∈ unknown.suggestions) (y : Operand) :
    ∃ category, table.categoryFor code y = .ok category := by
  have hlocale : locale ∉ table.locales := by
    intro hlocale
    obtain ⟨ruleSet, hruleSet⟩ := mem_locales_iff.mp hlocale
    rw [categoryFor_of_ruleSet hruleSet] at h
    cases h
  rw [categoryFor_of_notMem_locales hlocale] at h
  cases h
  have hlisted : code ∈ table.locales := mem_of_mem_suggestions locale table.locales hcode
  obtain ⟨ruleSet, hruleSet⟩ := mem_locales_iff.mp hlisted
  exact ⟨_, categoryFor_of_ruleSet hruleSet y⟩

/-- The suggestions are the codes at the closest places, and those that a table makes for an unknown
locale are locales of the table. -/
theorem suggestions_are_closest (name : String) (known : List String) :
    (∃ distance places, ClosestPlaces name known distance places ∧
      suggestions name known = places.map known.get) ∧
    ∀ (table : RuleTable) locale x unknown, table.categoryFor locale x = .error unknown →
      ∀ code ∈ unknown.suggestions, ∀ y, ∃ category, table.categoryFor code y = .ok category :=
  ⟨⟨_, _, closestPlaces_take_rankedPlaces name known, suggestions_eq name known⟩,
    fun _ _ _ _ h _ hcode => RuleTable.categoryFor_of_mem_suggestions h hcode⟩

theorem suggestions_are_closest_cut :
    let english : RuleRecord := ⟨["en", "ee"], [⟨.one, "i = 1 and v = 0"⟩]⟩
    let spanish : RuleRecord := ⟨["es", "eo", "root"], [⟨.one, "n = 1"⟩]⟩
    ∃ table, RuleTable.build [english, spanish] = .ok table ∧
      table.categoryFor "eu" (Operand.ofInt 1) = .error ⟨"eu", ["ee", "en", "eo"]⟩ ∧
      ∃ category, table.categoryFor "ee" (Operand.ofInt 1) = .ok category := by
  intro english spanish
  have hlisted : (RuleTable.build [english, spanish]).map RuleTable.locales =
      .ok ["ee", "en", "eo", "es", "root"] := by
    decide +kernel
  cases hbuild : RuleTable.build [english, spanish] with
  | error e =>
    rw [hbuild] at hlisted
    cases hlisted
  | ok table =>
    rw [hbuild] at hlisted
    have hlocales : table.locales = ["ee", "en", "eo", "es", "root"] := Except.ok.inj hlisted
    have hcodes : nearCodes "eu" ["ee", "en", "eo", "es", "root"] =
        [(1, "ee"), (1, "en"), (1, "eo"), (1, "es")] := by
      decide +kernel
    have hsorted : [(1, "ee"), (1, "en"), (1, "eo"), (1, "es")].Pairwise
        fun a b => decide (a.1 ≤ b.1) = true := by
      decide
    have hsuggestions : suggestions "eu" table.locales = ["ee", "en", "eo"] := by
      rw [hlocales, suggestions, hcodes, List.mergeSort_of_pairwise hsorted]
      rfl
    have hunknown : table.categoryFor "eu" (Operand.ofInt 1) =
        .error ⟨"eu", ["ee", "en", "eo"]⟩ := by
      rw [RuleTable.categoryFor_of_notMem_locales (by rw [hlocales]; decide), hsuggestions]
    exact ⟨table, rfl, hunknown, (suggestions_are_closest "eu" table.locales).2 table "eu" _ _
      hunknown "ee" (by decide) (Operand.ofInt 1)⟩

def characterLimit (name : String) : ℕ :=
  if name.length ≤ 3 then 1 else 2

theorem editDistance_append_two (text : List Char) (a b : Char) :
    Text.editDistance text (text ++ [a, b]) = 2 := by
  have hle : Text.editDistance text (text ++ [a, b]) ≤ 2 :=
    (Text.edits_append text [a, b]).editDistance_le
  have hlength := (Text.edits_editDistance text (text ++ [a, b])).length_le
  simp only [List.length_append, List.length_cons, List.length_nil] at hlength
  omega

theorem suggestions_append_two {name : String} (h : 3 < name.utf8ByteSize) :
    suggestions name [name ++ "aa"] = [name ++ "aa"] := by
  have hlimit : suggestionLimit name = 2 := if_neg (Nat.not_le.mpr h)
  have hdistance : Text.editDistance name.toList (name ++ "aa").toList = 2 := by
    rw [String.toList_append]
    exact editDistance_append_two name.toList 'a' 'a'
  have hnear : nearCodes name [name ++ "aa"] = [(2, name ++ "aa")] := by
    simp only [nearCodes, List.map_cons, List.map_nil, hdistance, hlimit]
    rfl
  rw [suggestions, hnear, List.mergeSort_singleton]
  rfl

/-- The suggestions keep to the limit by bytes. They keep to the one by characters if no more than
three characters take no more than three bytes. -/
theorem suggestsWithin_characterLimit_iff (name : String) :
    (∀ known, SuggestsWithin (suggestionLimit name) name known) ∧
    ((∀ known, SuggestsWithin (characterLimit name) name known) ↔
      (name.length ≤ 3 → name.utf8ByteSize ≤ 3)) := by
  refine ⟨suggestsWithin_suggestionLimit name, ?_, ?_⟩
  · intro hwithin hshort
    by_contra hlong
    have hcode : name ++ "aa" ∈ suggestions name [name ++ "aa"] := by
      rw [suggestions_append_two (Nat.not_le.mp hlong)]
      exact List.mem_singleton_self _
    obtain ⟨n, hleast, -, hle⟩ := hwithin [name ++ "aa"] _ hcode
    rw [characterLimit, if_pos hshort] at hle
    have htwo : n = 2 := by
      have hdistance := editDistance_append_two name.toList 'a' 'a'
      rw [String.toList_append] at hleast
      exact (hleast.unique (Text.isLeast_editDistance _ _)).trans hdistance
    omega
  · intro hbytes known
    have hlimit : suggestionLimit name = characterLimit name := by
      have hlength := Text.length_le_utf8ByteSize name
      unfold suggestionLimit characterLimit
      split <;> split <;> omega
    exact hlimit ▸ suggestsWithin_suggestionLimit name known

/-- Two letters with an accent take four bytes, so that a code with neither letter is suggested. -/
theorem suggests_beyond_characterLimit :
    "éé".length = 2 ∧ suggestions "éé" ["en"] = ["en"] ∧
      ¬SuggestsWithin (characterLimit "éé") "éé" ["en"] := by
  have hnear : nearCodes "éé" ["en"] = [(2, "en")] := by
    decide +kernel
  have hsuggested : suggestions "éé" ["en"] = ["en"] := by
    rw [suggestions, hnear, List.mergeSort_singleton]
    rfl
  refine ⟨by decide +kernel, hsuggested, fun hwithin => ?_⟩
  have hcode : "en" ∈ suggestions "éé" ["en"] := by
    rw [hsuggested]
    exact List.mem_singleton_self _
  obtain ⟨n, hleast, -, hle⟩ := hwithin "en" hcode
  have hlimit : characterLimit "éé" = 1 := by
    decide +kernel
  have hdistance : Text.editDistance "éé".toList "en".toList = 2 := by
    decide +kernel
  have htwo : n = 2 := (hleast.unique (Text.isLeast_editDistance _ _)).trans hdistance
  omega

end PluralRules
