import GatewayPolicy.Proofs.Text.Trimming
import GatewayPolicy.Row

/-!
# Written address lists

A text lists addresses if they stand in it in their order, with padding around
them and a separator in the padding between any two.  Padding is made of
separators and blanks; a newline is both, any other separator visible.  Every
text lists addresses in this sense, and splitting finds them: no other list is
listed by the same text, and joined by commas they are found again.
-/

set_option autoImplicit false

namespace GatewayPolicy

/-- Something that can stand on a list: not empty, blank at neither end and
without separators. -/
structure IsAddress (cs : List Char) : Prop where
  ne_nil : cs ≠ []
  trimmed : Text.IsTrimmed cs
  unseparated : ∀ c ∈ cs, isAddressSeparator c = false

/-- Separators and blanks, in any order and number. -/
def IsPadding (cs : List Char) : Prop :=
  ∀ c ∈ cs, isAddressSeparator c = true ∨ Text.isBlankChar c = true

inductive ListsAddresses : List (List Char) → List Char → Prop where
  | none {padding : List Char} (pads : IsPadding padding) :
      ListsAddresses [] padding
  | last {before address after : List Char} (padsBefore : IsPadding before)
      (holds : IsAddress address) (padsAfter : IsPadding after) :
      ListsAddresses [address] (before ++ address ++ after)
  | more {before address between rest next : List Char}
      {others : List (List Char)} (padsBefore : IsPadding before)
      (holds : IsAddress address) (padsBetween : IsPadding between)
      (separated : ∃ c ∈ between, isAddressSeparator c = true)
      (later : ListsAddresses (next :: others) rest) :
      ListsAddresses (address :: next :: others)
        (before ++ address ++ between ++ rest)

def addressesIn (cs : List Char) : List (List Char) :=
  ((addressPieces cs).map Text.trimChars).filter fun piece => !piece.isEmpty

theorem splitAddresses_eq (written : String) :
    splitAddresses written =
      (addressesIn written.toList).map String.ofList :=
  rfl

/-! ## Padding -/

theorem isPadding_nil : IsPadding [] :=
  nofun

theorem IsPadding.append {cs ds : List Char} (first : IsPadding cs)
    (second : IsPadding ds) : IsPadding (cs ++ ds) :=
  List.forall_mem_append.mpr ⟨first, second⟩

theorem isPadding_of_blank {cs : List Char}
    (blank : ∀ c ∈ cs, Text.isBlankChar c = true) : IsPadding cs :=
  fun c member => Or.inr (blank c member)

theorem isPadding_separator {c : Char}
    (separator : isAddressSeparator c = true) : IsPadding [c] :=
  List.forall_mem_singleton.mpr (Or.inl separator)

theorem unseparated_or_cut (cs : List Char) :
    (∀ c ∈ cs, isAddressSeparator c = false) ∨
      ∃ before c after, cs = before ++ c :: after ∧
        (∀ d ∈ before, isAddressSeparator d = false) ∧
        isAddressSeparator c = true := by
  cases found : cs.find? isAddressSeparator with
  | none =>
      refine Or.inl fun c member => ?_
      simpa using List.find?_eq_none.mp found c member
  | some c =>
      obtain ⟨separator, before, after, rfl, clear⟩ :=
        List.find?_eq_some_iff_append.mp found
      refine Or.inr ⟨before, c, after, rfl, fun d member => ?_, separator⟩
      simpa using clear d member

/-! ## Splitting a text in two -/

/-- At a separator a text falls into two that are split apart from each
other. -/
theorem addressesIn_append_cons (before after : List Char) {c : Char}
    (separator : isAddressSeparator c = true) :
    addressesIn (before ++ c :: after) =
      addressesIn before ++ addressesIn after := by
  rw [addressesIn, addressPieces, List.splitOnP_append_cons _ _ separator,
    List.map_append, List.filter_append]
  rfl

theorem addressesIn_cons_separator {c : Char} (rest : List Char)
    (separator : isAddressSeparator c = true) :
    addressesIn (c :: rest) = addressesIn rest :=
  addressesIn_append_cons [] rest separator

theorem addressesIn_cons_blank {c : Char} (rest : List Char)
    (blank : Text.isBlankChar c = true) :
    addressesIn (c :: rest) = addressesIn rest := by
  by_cases separator : isAddressSeparator c = true
  · exact addressesIn_cons_separator rest separator
  · have shorter (piece : List Char) :
        Text.trimChars (c :: piece) = Text.trimChars piece := by
      rw [Text.trimChars, List.dropWhile_cons_of_pos blank, Text.trimChars]
    obtain ⟨piece, pieces, split⟩ := List.exists_cons_of_ne_nil
      (List.splitOnP_ne_nil isAddressSeparator rest)
    rw [addressesIn, addressPieces, List.splitOnP_cons_eq_if_modifyHead,
      if_neg separator, addressesIn, addressPieces, split,
      List.modifyHead_cons, List.map_cons, List.map_cons, shorter]

theorem addressesIn_padding_append {padding : List Char}
    (pads : IsPadding padding) (rest : List Char) :
    addressesIn (padding ++ rest) = addressesIn rest := by
  induction padding with
  | nil => rfl
  | cons c others ih =>
      obtain ⟨first, later⟩ := List.forall_mem_cons.mp pads
      rw [List.cons_append]
      rcases first with separator | blank
      · rw [addressesIn_cons_separator _ separator, ih later]
      · rw [addressesIn_cons_blank _ blank, ih later]

theorem addressesIn_padding {padding : List Char} (pads : IsPadding padding) :
    addressesIn padding = [] := by
  have absorbed := addressesIn_padding_append pads []
  rwa [List.append_nil] at absorbed

theorem addressesIn_unseparated {piece : List Char}
    (unseparated : ∀ c ∈ piece, isAddressSeparator c = false)
    (left : Text.trimChars piece ≠ []) :
    addressesIn piece = [Text.trimChars piece] := by
  have kept : (Text.trimChars piece).isEmpty = false := by
    simpa using left
  rw [addressesIn, addressPieces, List.splitOnP_eq_singleton unseparated]
  simp only [List.map_singleton, List.filter_cons, kept, Bool.not_false,
    if_true, List.filter_nil]

/-! ## Addresses and what follows them -/

namespace IsAddress

variable {address : List Char}

theorem addressesIn_append_blanks (holds : IsAddress address)
    {blanks : List Char} (blank : ∀ c ∈ blanks, Text.isBlankChar c = true)
    (unseparated : ∀ c ∈ blanks, isAddressSeparator c = false) :
    addressesIn (address ++ blanks) = [address] := by
  have trimmed : Text.trimChars (address ++ blanks) = address :=
    Text.trimChars_eq_iff.mpr
      ⟨[], blanks, rfl, nofun, blank, holds.trimmed⟩
  rw [addressesIn_unseparated
    (List.forall_mem_append.mpr ⟨holds.unseparated, unseparated⟩)
    (trimmed.symm ▸ holds.ne_nil), trimmed]

theorem addressesIn_append_padding (holds : IsAddress address)
    {padding : List Char} (pads : IsPadding padding) :
    addressesIn (address ++ padding) = [address] := by
  have blanks {cs : List Char} (pads : IsPadding cs)
      (unseparated : ∀ c ∈ cs, isAddressSeparator c = false) :
      ∀ c ∈ cs, Text.isBlankChar c = true := by
    intro c member
    exact (pads c member).resolve_left (by simp [unseparated c member])
  rcases unseparated_or_cut padding with
    unseparated | ⟨before, c, after, rfl, unseparated, separator⟩
  · exact holds.addressesIn_append_blanks (blanks pads unseparated) unseparated
  · -- what stands before the first separator is trimmed with the address
    obtain ⟨padsBefore, padsAfter⟩ := List.forall_mem_append.mp pads
    obtain ⟨_, padsLater⟩ := List.forall_mem_cons.mp padsAfter
    rw [← List.append_assoc, addressesIn_append_cons _ _ separator,
      holds.addressesIn_append_blanks (blanks padsBefore unseparated)
        unseparated,
      addressesIn_padding padsLater, List.append_nil]

/-- Padding with a separator in it keeps an address apart from what follows. -/
theorem addressesIn_append_separated (holds : IsAddress address)
    {between : List Char} (pads : IsPadding between)
    (separated : ∃ c ∈ between, isAddressSeparator c = true)
    (rest : List Char) :
    addressesIn (address ++ between ++ rest) =
      address :: addressesIn rest := by
  obtain ⟨c, member, separator⟩ := separated
  obtain ⟨before, after, rfl⟩ := List.append_of_mem member
  obtain ⟨padsBefore, padsAfter⟩ := List.forall_mem_append.mp pads
  obtain ⟨_, padsLater⟩ := List.forall_mem_cons.mp padsAfter
  calc addressesIn (address ++ (before ++ c :: after) ++ rest)
      = addressesIn (address ++ before ++ c :: (after ++ rest)) := by
        simp only [List.append_assoc, List.cons_append]
    _ = addressesIn (address ++ before) ++ addressesIn (after ++ rest) :=
        addressesIn_append_cons _ _ separator
    _ = address :: addressesIn rest := by
        rw [holds.addressesIn_append_padding padsBefore,
          addressesIn_padding_append padsLater, List.singleton_append]

end IsAddress

/-! ## Every text lists the addresses that it is split into -/

namespace ListsAddresses

variable {addresses : List (List Char)} {cs : List Char}

theorem addressesIn_eq (lists : ListsAddresses addresses cs) :
    addressesIn cs = addresses := by
  induction lists with
  | none pads => exact addressesIn_padding pads
  | last padsBefore holds padsAfter =>
      rw [List.append_assoc, addressesIn_padding_append padsBefore,
        holds.addressesIn_append_padding padsAfter]
  | @more before address between rest _ _ padsBefore holds padsBetween
      separated _ ih =>
      have grouped : before ++ address ++ between ++ rest =
          before ++ (address ++ between ++ rest) := by
        simp only [List.append_assoc]
      rw [grouped, addressesIn_padding_append padsBefore,
        holds.addressesIn_append_separated padsBetween separated, ih]

theorem isAddress (lists : ListsAddresses addresses cs) :
    ∀ address ∈ addresses, IsAddress address := by
  induction lists with
  | none _ => exact nofun
  | last _ holds _ => exact List.forall_mem_singleton.mpr holds
  | more _ holds _ _ _ ih => exact List.forall_mem_cons.mpr ⟨holds, ih⟩

theorem padding_append {padding : List Char} (pads : IsPadding padding)
    (lists : ListsAddresses addresses cs) :
    ListsAddresses addresses (padding ++ cs) := by
  cases lists with
  | none others => exact .none (pads.append others)
  | last padsBefore holds padsAfter =>
      simp only [← List.append_assoc]
      exact .last (pads.append padsBefore) holds padsAfter
  | more padsBefore holds padsBetween separated later =>
      simp only [← List.append_assoc]
      exact .more (pads.append padsBefore) holds padsBetween separated later

theorem cons {before address between : List Char}
    (padsBefore : IsPadding before) (holds : IsAddress address)
    (padsBetween : IsPadding between)
    (separated : ∃ c ∈ between, isAddressSeparator c = true)
    (lists : ListsAddresses addresses cs) :
    ListsAddresses (address :: addresses)
      (before ++ address ++ between ++ cs) := by
  cases addresses with
  | cons next others => exact .more padsBefore holds padsBetween separated lists
  | nil =>
      cases lists with
      | none pads =>
          rw [List.append_assoc _ between]
          exact .last padsBefore holds (padsBetween.append pads)

theorem padding_or_address {piece : List Char}
    (unseparated : ∀ c ∈ piece, isAddressSeparator c = false) :
    IsPadding piece ∨ ∃ before address after,
      piece = before ++ address ++ after ∧ IsPadding before ∧
        IsAddress address ∧ IsPadding after := by
  obtain ⟨before, after, split, blankBefore, blankAfter, trimmed⟩ :=
    Text.trimChars_eq_iff.mp (rfl : Text.trimChars piece = _)
  generalize Text.trimChars piece = address at split trimmed
  have padsBefore := isPadding_of_blank blankBefore
  have padsAfter := isPadding_of_blank blankAfter
  subst split
  by_cases empty : address = []
  · subst empty
    rw [List.append_nil]
    exact Or.inl (padsBefore.append padsAfter)
  · have whole : ∀ c ∈ address, isAddressSeparator c = false :=
      fun c member => unseparated c
        (List.mem_append_left _ (List.mem_append_right _ member))
    exact Or.inr ⟨before, address, after, rfl, padsBefore,
      ⟨empty, trimmed, whole⟩, padsAfter⟩

end ListsAddresses

open ListsAddresses in
/-- Every text lists some addresses: the piece before its first separator may
be one, and the others come after. -/
theorem exists_listed (cs : List Char) :
    ∃ addresses, ListsAddresses addresses cs := by
  rcases unseparated_or_cut cs with
    unseparated | ⟨piece, c, rest, rfl, unseparated, separator⟩
  · rcases padding_or_address unseparated with
      pads | ⟨before, address, after, rfl, padsBefore, holds, padsAfter⟩
    · exact ⟨[], .none pads⟩
    · exact ⟨[address], .last padsBefore holds padsAfter⟩
  · obtain ⟨addresses, lists⟩ := exists_listed rest
    have padsSeparator := isPadding_separator separator
    rcases padding_or_address unseparated with
      pads | ⟨before, address, after, rfl, padsBefore, holds, padsAfter⟩
    · refine ⟨addresses, ?_⟩
      rw [List.append_cons]
      exact lists.padding_append (pads.append padsSeparator)
    · refine ⟨address :: addresses, ?_⟩
      have grouped : before ++ address ++ after ++ c :: rest =
          before ++ address ++ (after ++ [c]) ++ rest := by
        simp only [List.append_assoc, List.cons_append, List.nil_append]
      rw [grouped]
      exact lists.cons padsBefore holds (padsAfter.append padsSeparator)
        ⟨c, List.mem_append_right _ (List.mem_singleton_self c), separator⟩
termination_by cs.length

theorem addressesIn_eq_iff {addresses : List (List Char)} {cs : List Char} :
    addressesIn cs = addresses ↔ ListsAddresses addresses cs := by
  constructor
  · rintro rfl
    obtain ⟨addresses, lists⟩ := exists_listed cs
    rwa [lists.addressesIn_eq]
  · exact ListsAddresses.addressesIn_eq

theorem listsAddresses_intercalate {addresses : List (List Char)}
    (hold : ∀ address ∈ addresses, IsAddress address) :
    ListsAddresses addresses ([','].intercalate addresses) := by
  induction addresses with
  | nil => exact .none isPadding_nil
  | cons address others ih =>
      obtain ⟨holds, later⟩ := List.forall_mem_cons.mp hold
      cases others with
      | nil =>
          have alone : [','].intercalate [address] = [] ++ address ++ [] := by
            rw [List.intercalate_singleton, List.nil_append, List.append_nil]
          rw [alone]
          exact .last isPadding_nil holds isPadding_nil
      | cons next others =>
          rw [List.intercalate_cons_cons, ← List.nil_append address]
          exact .more isPadding_nil holds (isPadding_separator rfl)
            ⟨',', List.mem_singleton_self _, rfl⟩ (ih later)

/-! ## Texts -/

theorem splitAddresses_eq_iff {addresses : List String} {written : String} :
    splitAddresses written = addresses ↔
      ListsAddresses (addresses.map String.toList) written.toList := by
  rw [← addressesIn_eq_iff, splitAddresses_eq]
  constructor
  · rintro rfl
    simp only [List.map_map, Function.comp_def, String.toList_ofList,
      List.map_id']
  · intro found
    simp only [found, List.map_map, Function.comp_def, String.ofList_toList,
      List.map_id']

/-- A text is split into a list exactly if it lists the members, whatever
padding it has.  So all that a text is split into are addresses, and they are
what their own list is split into when it is written with commas. -/
theorem address_lists_split_back :
    (∀ (addresses : List String) (written : String),
      splitAddresses written = addresses ↔
        ListsAddresses (addresses.map String.toList) written.toList) ∧
    ∀ written : String,
      (∀ address ∈ splitAddresses written, IsAddress address.toList) ∧
      splitAddresses (",".intercalate (splitAddresses written)) =
        splitAddresses written := by
  refine ⟨fun _ _ => splitAddresses_eq_iff, fun written => ?_⟩
  have lists := splitAddresses_eq_iff.mp (rfl : splitAddresses written = _)
  have hold := lists.isAddress
  refine ⟨fun address member => hold _ (List.mem_map_of_mem member), ?_⟩
  rw [splitAddresses_eq_iff, String.toList_intercalate]
  exact listsAddresses_intercalate hold

/-- A no-break space is a blank but no separator, and a blank within an address
is part of it. -/
theorem crowded_list_splits_back :
    let written := " ;10.0.0.1\u00a0\n,, 10.0.0.2 - 10.0.0.9;\n"
    splitAddresses written = ["10.0.0.1", "10.0.0.2 - 10.0.0.9"] ∧
    "10.0.0.2 - 10.0.0.9" ∈ splitAddresses written ∧
    IsAddress "10.0.0.2 - 10.0.0.9".toList ∧
    splitAddresses (",".intercalate (splitAddresses written)) =
      splitAddresses written := by
  intro written
  have found :
      splitAddresses written = ["10.0.0.1", "10.0.0.2 - 10.0.0.9"] := by
    decide +kernel
  have member : "10.0.0.2 - 10.0.0.9" ∈ splitAddresses written := by
    rw [found]
    exact List.mem_cons_of_mem _ (List.mem_singleton_self _)
  obtain ⟨hold, again⟩ := address_lists_split_back.2 written
  exact ⟨found, member, hold _ member, again⟩

end GatewayPolicy
