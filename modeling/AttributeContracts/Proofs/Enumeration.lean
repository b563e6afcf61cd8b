/-
# The order of enumeration

A record enumerates its index-like names first, ascending, and the others by place. An index-like
name is the one decimal spelling of its number, so two of them never share a number and the order
leaves nothing open: a list of the same names in which every two stand as they should is the
enumeration.

So enumerating what was already enumerated changes nothing, and neither does leaving names out.
-/

import AttributeContracts.Proofs.Members

namespace AttributeContracts.Members

variable {α : Type}

/-! ## Index-like names -/

/-- The number of a digit, which spells it. -/
private theorem toDigits_digit {c : Char} (digit : c.isDigit = true) :
    c.toNat - '0'.toNat < 10 ∧ Nat.toDigits 10 (c.toNat - '0'.toNat) = [c] := by
  obtain ⟨least, most⟩ : 48 ≤ c.toNat ∧ c.toNat ≤ 57 := Char.isDigit_iff_toNat.1 digit
  have below : c.toNat - '0'.toNat < 10 := by
    show c.toNat - 48 < 10
    omega
  refine ⟨below, ?_⟩
  rw [Nat.toDigits_of_lt_base below, List.cons.injEq]
  refine ⟨Char.toNat_inj.1 ?_, rfl⟩
  rw [Nat.toNat_digitChar_of_lt_ten below]
  show 48 + (c.toNat - 48) = c.toNat
  omega

/-- By induction on the digits: reading on after a positive number spells on after it. -/
private theorem toDigits_ofDigitChars {digits : List Char}
    (all : ∀ c ∈ digits, c.isDigit = true) {read : Nat} (positive : 0 < read) :
    Nat.toDigits 10 (Nat.ofDigitChars 10 digits read) = Nat.toDigits 10 read ++ digits := by
  induction digits generalizing read with
  | nil => rw [Nat.ofDigitChars_nil, List.append_nil]
  | cons next rest ih =>
      obtain ⟨isDigit, others⟩ := List.forall_mem_cons.1 all
      obtain ⟨below, spelled⟩ := toDigits_digit isDigit
      have later : 0 < 10 * read + (next.toNat - '0'.toNat) := by omega
      calc
        Nat.toDigits 10 (Nat.ofDigitChars 10 (next :: rest) read) =
            Nat.toDigits 10 (10 * read + (next.toNat - '0'.toNat)) ++ rest := by
          rw [Nat.ofDigitChars_cons, ih others later]
        _ = (Nat.toDigits 10 read ++ [next]) ++ rest := by
          rw [← spelled, Nat.toDigits_append_toDigits (by decide) positive below]
        _ = Nat.toDigits 10 read ++ next :: rest := by
          rw [List.append_assoc, List.singleton_append]

/-- An index-like name is the decimal spelling of its number. -/
theorem eq_repr_of_index? {name : String} {index : Nat} (spelled : index? name = some index) :
    name = index.repr := by
  have spelling : Nat.toDigits 10 index = name.toList := by
    unfold index? at spelled
    split at spelled
    · cases spelled
    · next first rest listed =>
        split at spelled
        · next canonical =>
            obtain ⟨digits, leads⟩ := canonical
            obtain ⟨isDigit, others⟩ := List.forall_mem_cons.1 (List.all_eq_true.1 digits)
            obtain ⟨_, single⟩ := toDigits_digit isDigit
            dsimp only at spelled
            split at spelled
            · cases spelled
              rw [listed, Nat.ofDigitChars_cons, Nat.mul_zero, Nat.zero_add]
              rcases Nat.eq_zero_or_pos (first.toNat - '0'.toNat) with zero | positive
              · -- Only a zero that stands alone has no other digit before it.
                rw [zero] at single ⊢
                obtain rfl : '0' = first := (List.cons.inj single).1
                obtain rfl : rest = [] := leads.resolve_left (not_not_intro rfl)
                rfl
              · rw [toDigits_ofDigitChars others positive, single, List.singleton_append]
            · cases spelled
        · cases spelled
  rw [Nat.repr_eq_ofList_toDigits, spelling, String.ofList_toList]

/-- By induction on the number: only zero is spelled with a leading zero. -/
private theorem head_toDigits {index : Nat} (positive : 0 < index) :
    ∃ first rest, Nat.toDigits 10 index = first :: rest ∧ first ≠ '0' := by
  induction index using Nat.strongRecOn with
  | ind index ih =>
      by_cases below : index < 10
      · refine ⟨_, [], Nat.toDigits_of_lt_base below, fun zero => ?_⟩
        have number := Nat.toNat_digitChar_of_lt_ten below
        rw [zero] at number
        have : (48 : Nat) = 48 + index := number
        omega
      · obtain ⟨first, rest, spelled, nonzero⟩ := ih (index / 10) (by omega) (by omega)
        refine ⟨first, rest ++ [(index % 10).digitChar], ?_, nonzero⟩
        rw [Nat.toDigits_of_base_le (by decide) (by omega), spelled, List.cons_append]

/-- The index-like names are the decimal spellings of the numbers up to the greatest one. -/
theorem index?_eq_some_iff {name : String} {index : Nat} :
    index? name = some index ↔ name = index.repr ∧ index ≤ greatestIndex := by
  constructor
  · intro spelled
    refine ⟨eq_repr_of_index? spelled, ?_⟩
    unfold index? at spelled
    grind
  · rintro ⟨rfl, within⟩
    have spelling : index.repr.toList = Nat.toDigits 10 index := by
      rw [Nat.repr_eq_ofList_toDigits, String.toList_ofList]
    have read : Nat.ofDigitChars 10 (Nat.toDigits 10 index) 0 = index :=
      Nat.ofDigitChars_toDigits (by decide) (by decide)
    have digits : ∀ c ∈ Nat.toDigits 10 index, c.isDigit = true := fun c =>
      Nat.isDigit_of_mem_toDigits (by decide) (by decide)
    have leads : ∃ first rest,
        Nat.toDigits 10 index = first :: rest ∧ (first ≠ '0' ∨ rest = []) := by
      rcases Nat.eq_zero_or_pos index with rfl | positive
      · exact ⟨'0', [], rfl, .inr rfl⟩
      · obtain ⟨first, rest, spelled, nonzero⟩ := head_toDigits positive
        exact ⟨first, rest, spelled, .inl nonzero⟩
    obtain ⟨first, rest, listed, canonical⟩ := leads
    rw [listed] at read digits spelling
    simp only [index?, spelling]
    rw [if_pos ⟨List.all_eq_true.2 digits, canonical⟩, read, if_pos within]

/-- Two names of one number are one name. -/
theorem index?_injective {first second : String} {index : Nat}
    (one : index? first = some index) (two : index? second = some index) : first = second :=
  (eq_repr_of_index? one).trans (eq_repr_of_index? two).symm

/-! ## What enumeration sorts -/

/-- The index-like names stand with their numbers. -/
theorem mem_indexNames {names : List String} {index : Nat} {name : String} :
    (index, name) ∈ indexNames names ↔ name ∈ names ∧ index? name = some index := by
  induction names with
  | nil => simp [indexNames]
  | cons first rest ih =>
      rw [indexNames, List.mem_cons]
      cases spelled : index? first with
      | none =>
          simp only [ih]
          constructor
          · exact fun held => ⟨.inr held.1, held.2⟩
          · rintro ⟨rfl | held, isIndex⟩
            · cases spelled.symm.trans isIndex
            · exact ⟨held, isIndex⟩
      | some number =>
          rw [(insertIndex_perm number first (indexNames rest)).mem_iff, List.mem_cons, ih,
            Prod.mk.injEq]
          constructor
          · rintro (⟨rfl, rfl⟩ | ⟨held, isIndex⟩)
            · exact ⟨.inl rfl, spelled⟩
            · exact ⟨.inr held, isIndex⟩
          · rintro ⟨rfl | held, isIndex⟩
            · exact .inl ⟨Option.some.inj (isIndex.symm.trans spelled), rfl⟩
            · exact .inr ⟨held, isIndex⟩

/-- The step of the sort: a name is put behind the smaller numbers and before all others. -/
theorem pairwise_insertIndex (index : Nat) (name : String) {sorted : List (Nat × String)}
    (ascending : sorted.Pairwise (·.1 ≤ ·.1)) :
    (insertIndex index name sorted).Pairwise (·.1 ≤ ·.1) := by
  induction sorted with
  | nil => exact List.pairwise_singleton _ _
  | cons other rest ih =>
      obtain ⟨least, others⟩ := List.pairwise_cons.1 ascending
      rw [insertIndex]
      split
      · next before =>
          refine List.pairwise_cons.2 ⟨?_, ascending⟩
          exact List.forall_mem_cons.2
            ⟨before, fun entry held => Nat.le_trans before (least entry held)⟩
      · next behind =>
          refine List.pairwise_cons.2 ⟨fun entry held => ?_, ih others⟩
          rw [(insertIndex_perm index name rest).mem_iff, List.mem_cons] at held
          obtain rfl | held := held
          · exact Nat.le_of_not_le behind
          · exact least entry held

theorem pairwise_indexNames (names : List String) :
    (indexNames names).Pairwise (·.1 ≤ ·.1) := by
  induction names with
  | nil => exact .nil
  | cons name rest ih =>
      rw [indexNames]
      split
      · exact pairwise_insertIndex _ _ ih
      · exact ih

/-! ## The order -/

/-- How two names follow each other in an enumeration: before an index-like name stand only
index-like names of smaller numbers. -/
def Precedes (first second : String) : Prop :=
  ∀ index, index? second = some index → ∃ smaller, index? first = some smaller ∧ smaller < index

/-- Whatever is enumerated without repetition stands in this order. -/
theorem pairwise_ordered {names : List String} (distinct : names.Nodup) :
    (ordered names).Pairwise Precedes := by
  have apart : ((indexNames names).map Prod.snd).Nodup :=
    (indexNames_perm names).nodup_iff.2 (distinct.filter _)
  refine List.pairwise_append.2 ⟨?_, ?_, ?_⟩
  · rw [List.pairwise_map]
    have both := (pairwise_indexNames names).and (List.pairwise_map.1 apart)
    refine both.imp_of_mem fun {first second} firstHeld secondHeld steps index spelled => ?_
    have isFirst := (mem_indexNames.1 firstHeld).2
    have isSecond := (mem_indexNames.1 secondHeld).2
    cases spelled.symm.trans isSecond
    refine ⟨first.1, isFirst, Nat.lt_of_le_of_ne steps.1 fun same => steps.2 ?_⟩
    exact index?_injective isFirst (same ▸ isSecond)
  · refine List.Pairwise.imp_of_mem ?_ (List.pairwise_of_forall fun _ _ => trivial)
    intro first second _ held _ index spelled
    have other := (List.mem_filter.1 held).2
    rw [spelled] at other
    cases other
  · intro first _ second held index spelled
    have other := (List.mem_filter.1 held).2
    rw [spelled] at other
    cases other

/-- By induction on the names: what stands in this order is enumerated as it stands. -/
theorem ordered_eq_self {names : List String} (enumerated : names.Pairwise Precedes) :
    ordered names = names := by
  induction names with
  | nil => rfl
  | cons name rest ih =>
      obtain ⟨leads, others⟩ := List.pairwise_cons.1 enumerated
      have sorted : (indexNames rest).map Prod.snd ++
          rest.filter (fun other => (index? other).isNone) = rest := ih others
      rw [ordered, indexNames]
      cases spelled : index? name with
      | none =>
          have noIndex : indexNames rest = [] := by
            rw [List.eq_nil_iff_forall_not_mem]
            rintro ⟨index, other⟩ held
            obtain ⟨isOther, isIndex⟩ := mem_indexNames.1 held
            obtain ⟨smaller, isSmaller, _⟩ := leads other isOther index isIndex
            cases spelled.symm.trans isSmaller
          rw [noIndex] at sorted ⊢
          rw [List.filter_cons_of_pos (by rw [spelled]; rfl)]
          exact congrArg (name :: ·) sorted
      | some number =>
          have first : insertIndex number name (indexNames rest) =
              (number, name) :: indexNames rest := by
            cases listed : indexNames rest with
            | nil => rfl
            | cons entry _ =>
                have held : entry ∈ indexNames rest := listed ▸ List.mem_cons_self
                obtain ⟨isOther, isIndex⟩ := mem_indexNames.1 held
                obtain ⟨smaller, isSmaller, less⟩ := leads entry.2 isOther entry.1 isIndex
                cases spelled.symm.trans isSmaller
                rw [insertIndex, if_pos (Nat.le_of_lt less)]
          dsimp only
          rw [first, List.filter_cons_of_neg (by rw [spelled]; exact Bool.false_ne_true),
            List.map_cons, List.cons_append, sorted]

/-- Names in the order of enumeration: those that were placed, index-like ones first and
ascending, and the others by their places. -/
structure Enumerates (listed placed : List String) : Prop where
  same : listed.Perm placed
  ascending : listed.Pairwise Precedes
  others : listed.filter (fun name => (index? name).isNone) =
    placed.filter fun name => (index? name).isNone

/-- This is the order in which a record lists its names. -/
theorem enumerates_names (members : Members α) : Enumerates (names members) (places members) where
  same := ordered_perm _
  ascending := pairwise_ordered (nodup_places members)
  others := by
    have sorted : ((indexNames (places members)).map Prod.snd).filter
        (fun name => (index? name).isNone) = [] := by
      rw [List.filter_eq_nil_iff]
      intro name held
      rw [(indexNames_perm _).mem_iff, List.mem_filter] at held
      rw [Option.isNone_iff_eq_none, ← ne_eq, ← Option.isSome_iff_ne_none]
      exact held.2
    rw [names, ordered, List.filter_append, sorted, List.nil_append, List.filter_filter]
    simp only [Bool.and_self]

/-- Some of the names of a record, as it lists them, are enumerated as they stand. -/
theorem ordered_filter_names (members : Members α) (keep : String → Bool) :
    ordered ((names members).filter keep) = (names members).filter keep :=
  ordered_eq_self ((enumerates_names members).ascending.filter keep)

end AttributeContracts.Members
