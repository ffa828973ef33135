import GatewayPolicy.Json.Printer
import GatewayPolicy.Json.Reader
import GatewayPolicy.Proofs.Keyed.Lookup
import GatewayPolicy.Proofs.Number.Digits

/-!
# Reading printed values

A value is legible if its numbers are integers of a machine word, signed or not,
and the members of its objects ascend.  Reading the text that a legible value is
printed as gives the value back.
-/

set_option autoImplicit false

namespace GatewayPolicy.Json

/-- The value can be told from its text. -/
inductive Legible : Json → Prop where
  | null : Legible .null
  | bool (b : Bool) : Legible (.bool b)
  | integer {n : Int} (least : Int64.minValue.toInt ≤ n)
      (greatest : n < UInt64.size) : Legible (.integer n)
  | string (s : String) : Legible (.string s)
  | array {items : List Json} (legible : ∀ item ∈ items, Legible item) :
      Legible (.array items)
  | object {members : List (String × Json)} (sorted : Keyed.Sorted members)
      (legible : ∀ member ∈ members, Legible member.2) :
      Legible (.object members)

/-! ## Strings -/

theorem ofDigits?_control : ∀ n < 32,
    Hex.ofDigits? ['0', '0', Nat.digitChar (n / 16), Nat.digitChar (n % 16)] =
      some n := by
  decide

theorem charOf?_toNat (c : Char) : charOf? c.toNat = some c := by
  have valid : c.toNat.isValidChar := c.valid
  rw [charOf?, if_pos valid, Char.ofNat_toNat]

theorem stringTail?_escape (c : Char) (size : Nat) (rest : List Char) :
    stringTail? (size + 1) (escape c ++ rest) =
      (Scanner.map (c :: ·) (stringTail? size)) rest := by
  have ofEscaped (written : List Char)
      (read : escaped? (written ++ rest) = some (c, rest)) :
      stringTail? (size + 1) ('\\' :: written ++ rest) =
        (Scanner.map (c :: ·) (stringTail? size)) rest := by
    rw [List.cons_append, stringTail?, read, Scanner.map,
      Option.bind_eq_bind, Option.bind_some]
    dsimp only
    cases stringTail? size rest <;> rfl
  unfold escape
  split
  case h_8 =>
    split
    · next control =>
        refine ofEscaped ['u', '0', '0', _, _] ?_
        have small : c.toNat < 32 := control
        simp only [List.cons_append, List.nil_append, escaped?,
          ofDigits?_control c.toNat small, Option.bind_eq_bind,
          Option.bind_some, charOf?_toNat]
        rfl
    · next plain =>
        rw [List.cons_append, List.nil_append, stringTail?, if_neg plain] <;>
          assumption
  all_goals exact ofEscaped [_] rfl

theorem length_escape_pos (c : Char) : 0 < (escape c).length := by
  unfold escape
  split <;> first | decide | (split <;> simp)

theorem stringTail?_flatMap (chars rest : List Char) {size : Nat}
    (room : (chars.flatMap escape).length < size) :
    stringTail? size (chars.flatMap escape ++ '"' :: rest) =
      some (chars, rest) := by
  induction chars generalizing size with
  | nil =>
      obtain ⟨size, rfl⟩ := Nat.exists_eq_add_one.mpr room
      rfl
  | cons c chars ih =>
      rw [List.flatMap_cons, List.length_append] at room
      have step := length_escape_pos c
      obtain ⟨size, rfl⟩ : ∃ less, size = less + 1 :=
        Nat.exists_eq_add_one.mpr (by omega)
      rw [List.flatMap_cons, List.append_assoc, stringTail?_escape,
        Scanner.map, ih (by omega)]
      rfl

theorem quote_append (s : String) (rest : List Char) :
    quote s ++ rest = '"' :: (s.toList.flatMap escape ++ '"' :: rest) := by
  simp [quote]

theorem stringAfterQuote?_flatMap (s : String) (rest : List Char) :
    stringAfterQuote? (s.toList.flatMap escape ++ '"' :: rest) =
      some (s, rest) := by
  rw [stringAfterQuote?, Scanner.map, stringTail?_flatMap]
  · simp
  · simp only [List.length_append, List.length_cons]
    omega

/-! ## Numbers -/

theorem isWhole_toDigits (n : Nat) : isWhole (Nat.toDigits 10 n) = true := by
  rcases Nat.eq_zero_or_pos n with rfl | positive
  · rfl
  · have digits := Numeral.isDigit_of_mem_toDigits n
    have first := Numeral.head?_toDigits_ne_zero positive
    cases written : Nat.toDigits 10 n with
    | nil => exact absurd written Nat.toDigits_ne_nil
    | cons head rest =>
        rw [written] at digits first
        have nonzero : head ≠ '0' := fun same => first (congrArg some same)
        unfold isWhole
        split
        · next none => cases none
        · next zero => exact absurd (List.cons.inj zero).1 nonzero
        · next other _ same =>
            obtain ⟨rfl, rfl⟩ := List.cons.inj same
            simp only [Bool.and_eq_true, bne_iff_ne, List.all_eq_true]
            exact ⟨nonzero, digits⟩

theorem ne_minus_of_mem_toDigits {n : Nat} {c : Char}
    (member : c ∈ Nat.toDigits 10 n) : c ≠ '-' := by
  rintro rfl
  exact absurd (Numeral.isDigit_of_mem_toDigits n '-' member) (by decide)

theorem number?_digits (negative : Bool) (n : Nat)
    (nonzero : negative = true → Binary64.signed negative n ≠ 0)
    (least : Int64.minValue.toInt ≤ Binary64.signed negative n)
    (greatest : Binary64.signed negative n < UInt64.size) :
    number? ((if negative then ['-'] else []) ++ Nat.toDigits 10 n) =
      some (.integer (Binary64.signed negative n)) := by
  have run : Numeral.spanDigits (Nat.toDigits 10 n) =
      (Nat.toDigits 10 n, []) := by
    have split := Numeral.spanDigits_run (Numeral.isDigit_of_mem_toDigits n)
      Scanner.ends_nil
    rwa [List.append_nil] at split
  have inRange : (List.isEmpty ([] : List Char) &&
      (!negative || Binary64.signed negative n != 0) &&
      decide (Int64.minValue.toInt ≤ Binary64.signed negative n) &&
      decide (Binary64.signed negative n < UInt64.size)) = true := by
    rw [decide_eq_true least, decide_eq_true greatest]
    cases negative with
    | false => rfl
    | true => simp [nonzero rfl]
  unfold number?
  split
  next sign digits eq =>
    obtain ⟨rfl, rfl⟩ : sign = negative ∧ digits = Nat.toDigits 10 n := by
      split at eq
      · next rest written =>
          cases negative with
          | true =>
              obtain ⟨rfl, rfl⟩ := Prod.mk.inj eq
              exact ⟨rfl, (List.cons.inj written).2.symm⟩
          | false =>
              have member : '-' ∈ Nat.toDigits 10 n := by
                rw [show Nat.toDigits 10 n = '-' :: rest from written]
                exact .head _
              exact absurd rfl (ne_minus_of_mem_toDigits member)
      · next unsigned =>
          cases negative with
          | true => exact absurd rfl (unsigned _)
          | false =>
              obtain ⟨rfl, rfl⟩ := Prod.mk.inj eq
              exact ⟨rfl, rfl⟩
    simp only [run, isWhole_toDigits, Numeral.ofDigits_toDigits]
    rw [if_neg (by simp [hasFraction]), if_pos inRange]

theorem number?_toString {n : Int} (least : Int64.minValue.toInt ≤ n)
    (greatest : n < UInt64.size) :
    number? (toString n).toList = some (.integer n) := by
  have value := Numeral.signed_natAbs n
  have read := number?_digits (decide (n < 0)) n.natAbs
    (by rw [value]; simp only [decide_eq_true_eq]; omega)
    (by rwa [value]) (by rwa [value])
  rw [value] at read
  rw [Numeral.toList_toString_int, ← read]
  simp only [decide_eq_true_eq]

/-! ## The front of a printed value -/

theorem skipSpace_of_head {c : Char} (visible : isSpace c = false)
    (rest : List Char) : skipSpace (c :: rest) = c :: rest := by
  rw [skipSpace, List.dropWhile_cons_of_neg (by simp [visible])]

theorem isNumberChar_of_mem_toString {n : Int} :
    ∀ c ∈ (toString n).toList, isNumberChar c = true := by
  intro c member
  rw [Numeral.toList_toString_int] at member
  rcases List.mem_append.mp member with sign | digit
  · split at sign
    · obtain rfl := List.mem_singleton.mp sign
      rfl
    · cases sign
  · have isDigit := Numeral.isDigit_of_mem_toDigits _ c digit
    simp [isNumberChar, isDigit]

theorem toList_toString_ne_nil (n : Int) : (toString n).toList ≠ [] := by
  rw [Numeral.toList_toString_int]
  exact List.append_ne_nil_of_right_ne_nil _ Nat.toDigits_ne_nil

theorem not_isSpace_of_isNumberChar {c : Char}
    (number : isNumberChar c = true) : isSpace c = false := by
  refine Bool.eq_false_iff.mpr fun space => ?_
  have blank : c = ' ' ∨ c = '\t' ∨ c = '\n' ∨ c = '\r' := by
    simpa [isSpace, or_assoc] using space
  rcases blank with rfl | rfl | rfl | rfl <;> exact absurd number (by decide)

theorem exists_head_toString (n : Int) :
    ∃ c rest, (toString n).toList = c :: rest ∧ isNumberChar c = true := by
  cases written : (toString n).toList with
  | nil => exact absurd written (toList_toString_ne_nil n)
  | cons c rest =>
      have first : c ∈ (toString n).toList := by
        rw [written]
        exact .head _
      exact ⟨c, rest, rfl, isNumberChar_of_mem_toString c first⟩

theorem exists_head_print {json : Json} (legible : Legible json) :
    ∃ c rest, print json = c :: rest ∧ isSpace c = false ∧ c ≠ ']' := by
  cases legible with
  | null => exact ⟨'n', _, rfl, rfl, by decide⟩
  | bool b => cases b <;> exact ⟨_, _, rfl, rfl, by decide⟩
  | string s => exact ⟨'"', _, rfl, rfl, by decide⟩
  | array _ => exact ⟨'[', _, rfl, rfl, by decide⟩
  | object _ _ => exact ⟨'\x7b', _, rfl, rfl, by decide⟩
  | @integer n _ _ =>
      obtain ⟨c, rest, written, number⟩ := exists_head_toString n
      refine ⟨c, rest, written, not_isSpace_of_isNumberChar number, ?_⟩
      rintro rfl
      exact absurd number (by decide)

theorem expect?_of_head {head : Char} (visible : isSpace head = false)
    (c : Char) (rest : List Char) :
    expect? c (head :: rest) = if head == c then some rest else none := by
  rw [expect?, skipSpace_of_head visible]

/-! ## Items and members -/

theorem printItems_cons_cons (item next : Json) (more : List Json) :
    printItems (item :: next :: more) =
      print item ++ ',' :: printItems (next :: more) := by
  rw [printItems]
  exact nofun

theorem printMembers_cons_cons (name : String) (value : Json)
    (next : String × Json) (more : List (String × Json)) :
    printMembers ((name, value) :: next :: more) =
      quote name ++
        ':' :: (print value ++ ',' :: printMembers (next :: more)) := by
  rw [printMembers, List.append_assoc, List.cons_append]
  exact nofun

section Steps

variable {size : Nat} {item value : Json} {items : List Json}
  {members : List (String × Json)} {cs after rest : List Char}

theorem items?_last (read : value? size cs = some (item, ']' :: rest)) :
    items? (size + 1) cs = some ([item], rest) := by
  rw [items?, read]
  rfl

theorem items?_more (read : value? size cs = some (item, ',' :: after))
    (further : items? size after = some (items, rest)) :
    items? (size + 1) cs = some (item :: items, rest) := by
  rw [items?, read, Option.bind_eq_bind, Option.bind_some]
  simp only [skipSpace_of_head (show isSpace ',' = false from rfl), further]
  rfl

theorem members?_last (name : String)
    (read : value? size cs = some (value, '\x7d' :: rest)) :
    members? (size + 1) (quote name ++ ':' :: cs) =
      some ([(name, value)], rest) := by
  have colon : expect? ':' (':' :: cs) = some cs := rfl
  rw [quote_append, members?, expect?_of_head rfl]
  simp only [beq_self_eq_true, if_true, Option.bind_eq_bind, Option.bind_some,
    stringAfterQuote?_flatMap, colon, read]
  rfl

theorem members?_more (name : String)
    (read : value? size cs = some (value, ',' :: after))
    (further : members? size after = some (members, rest)) :
    members? (size + 1) (quote name ++ ':' :: cs) =
      some ((name, value) :: members, rest) := by
  have colon : expect? ':' (':' :: cs) = some cs := rfl
  rw [quote_append, members?, expect?_of_head rfl]
  simp only [beq_self_eq_true, if_true, Option.bind_eq_bind, Option.bind_some,
    stringAfterQuote?_flatMap, colon, read,
    skipSpace_of_head (show isSpace ',' = false from rfl), further]
  rfl

theorem value?_array {c : Char} (visible : isSpace c = false) (open_ : c ≠ ']')
    (read : items? size (c :: cs) = some (items, rest)) :
    value? (size + 1) ('[' :: c :: cs) = some (.array items, rest) := by
  rw [value?, skipSpace_of_head rfl]
  simp only [expect?_of_head visible, beq_iff_eq, if_neg open_, Scanner.map,
    read, Option.map_some]

theorem value?_object {c : Char} (visible : isSpace c = false)
    (open_ : c ≠ '\x7d')
    (read : members? size (c :: cs) = some (members, rest)) :
    value? (size + 1) ('\x7b' :: c :: cs) =
      some (.object (Keyed.ofList members), rest) := by
  rw [value?, skipSpace_of_head rfl]
  simp only [expect?_of_head visible, beq_iff_eq, if_neg open_, Scanner.map,
    read, Option.map_some]

end Steps

/-! ## Any value -/

theorem value?_quote (s : String) (fuel : Nat) (rest : List Char) :
    value? (fuel + 1) (quote s ++ rest) = some (.string s, rest) := by
  rw [quote_append, value?, skipSpace_of_head rfl]
  simp only [Scanner.map, stringAfterQuote?_flatMap, Option.map_some]

theorem value?_toString {n : Int} (least : Int64.minValue.toInt ≤ n)
    (greatest : n < UInt64.size) (fuel : Nat) {rest : List Char}
    (ended : Scanner.Ends isNumberChar rest) :
    value? (fuel + 1) ((toString n).toList ++ rest) =
      some (.integer n, rest) := by
  have numbers := isNumberChar_of_mem_toString (n := n)
  have taken := Scanner.takeWhile_run numbers ended
  have dropped := Scanner.dropWhile_run numbers ended
  obtain ⟨c, digits, written, number⟩ := exists_head_toString n
  have front : skipSpace ((toString n).toList ++ rest) =
      (toString n).toList ++ rest := by
    rw [written, List.cons_append]
    exact skipSpace_of_head (not_isSpace_of_isNumberChar number) _
  have first : ((toString n).toList ++ rest).head? = some c := by
    rw [written]
    rfl
  rw [value?, front]
  split
  case h_7 =>
    simp only [taken, dropped, number?_toString least greatest,
      Option.map_some]
  all_goals
    next begins =>
      rw [begins] at first
      obtain rfl := Option.some.inj first
      exact absurd number (by decide)

theorem exists_head_printItems {items : List Json} (nonempty : items ≠ [])
    (legible : ∀ item ∈ items, Legible item) :
    ∃ c rest, printItems items = c :: rest ∧ isSpace c = false ∧ c ≠ ']' := by
  cases items with
  | nil => exact absurd rfl nonempty
  | cons item more =>
      obtain ⟨c, rest, written, visible, open_⟩ :=
        exists_head_print (legible item (.head _))
      cases more with
      | nil => exact ⟨c, rest, by rw [printItems, written], visible, open_⟩
      | cons next more =>
          exact ⟨c, _, by rw [printItems_cons_cons, written]; rfl, visible, open_⟩

theorem exists_rest_printMembers {members : List (String × Json)}
    (nonempty : members ≠ []) : ∃ rest, printMembers members = '"' :: rest := by
  cases members with
  | nil => exact absurd rfl nonempty
  | cons member more =>
      obtain ⟨name, value⟩ := member
      cases more with
      | nil => exact ⟨_, by rw [printMembers]; rfl⟩
      | cons next more => exact ⟨_, by rw [printMembers_cons_cons]; rfl⟩

mutual

/-- The bound on depth and number of parts is never reached if it exceeds the
length of the text. -/
theorem value?_print (json : Json) (legible : Legible json) {fuel : Nat}
    {rest : List Char} (room : (print json).length < fuel)
    (ended : Scanner.Ends isNumberChar rest) :
    value? fuel (print json ++ rest) = some (json, rest) := by
  obtain ⟨fuel, rfl⟩ : ∃ less, fuel = less + 1 :=
    Nat.exists_eq_add_one.mpr (by omega)
  match json with
  | .null => rfl
  | .bool true => rfl
  | .bool false => rfl
  | .string s => exact value?_quote s fuel rest
  | .integer n =>
      cases legible with
      | integer least greatest => exact value?_toString least greatest fuel ended
  | .decimal _ => cases legible
  | .array [] => rfl
  | .array (item :: more) =>
      cases legible with
      | array legible =>
          have nonempty := List.cons_ne_nil item more
          rw [print, List.length_append, List.length_cons,
            List.length_singleton] at room
          have read : items? fuel (printItems (item :: more) ++ ']' :: rest) =
              some (item :: more, rest) :=
            items?_printItems (item :: more) nonempty legible (by omega)
          obtain ⟨c, cs, written, visible, open_⟩ :=
            exists_head_printItems nonempty legible
          rw [written, List.cons_append] at read
          rw [print, written, List.append_assoc]
          exact value?_array visible open_ read
  | .object [] => rfl
  | .object (member :: more) =>
      cases legible with
      | object sorted legible =>
          have nonempty := List.cons_ne_nil member more
          rw [print, List.length_append, List.length_cons,
            List.length_singleton] at room
          have read : members? fuel
              (printMembers (member :: more) ++ '\x7d' :: rest) =
                some (member :: more, rest) :=
            members?_printMembers (member :: more) nonempty legible (by omega)
          obtain ⟨cs, written⟩ := exists_rest_printMembers nonempty
          rw [written, List.cons_append] at read
          rw [print, written, List.append_assoc]
          have found := value?_object rfl (by decide) read
          rwa [Keyed.ofList_of_sorted sorted] at found

theorem items?_printItems (items : List Json) (nonempty : items ≠ [])
    (legible : ∀ item ∈ items, Legible item) {fuel : Nat} {rest : List Char}
    (room : (printItems items).length + 1 < fuel) :
    items? fuel (printItems items ++ ']' :: rest) = some (items, rest) := by
  obtain ⟨fuel, rfl⟩ : ∃ less, fuel = less + 1 :=
    Nat.exists_eq_add_one.mpr (by omega)
  match items with
  | [] => exact absurd rfl nonempty
  | [item] =>
      rw [printItems] at room ⊢
      exact items?_last (value?_print item (legible item (.head _)) (by omega)
        (Scanner.ends_cons rfl))
  | item :: next :: more =>
      obtain ⟨here, later⟩ := List.forall_mem_cons.mp legible
      rw [printItems_cons_cons, List.length_append, List.length_cons] at room
      rw [printItems_cons_cons, List.append_assoc, List.cons_append]
      exact items?_more
        (value?_print item here (by omega) (Scanner.ends_cons rfl))
        (items?_printItems (next :: more) (List.cons_ne_nil _ _) later
          (by omega))

theorem members?_printMembers (members : List (String × Json))
    (nonempty : members ≠ [])
    (legible : ∀ member ∈ members, Legible member.2) {fuel : Nat}
    {rest : List Char} (room : (printMembers members).length + 1 < fuel) :
    members? fuel (printMembers members ++ '\x7d' :: rest) =
      some (members, rest) := by
  obtain ⟨fuel, rfl⟩ : ∃ less, fuel = less + 1 :=
    Nat.exists_eq_add_one.mpr (by omega)
  match members with
  | [] => exact absurd rfl nonempty
  | [(name, value)] =>
      rw [printMembers, List.length_append, List.length_cons] at room
      rw [printMembers, List.append_assoc, List.cons_append]
      exact members?_last name
        (value?_print value (legible (name, value) (.head _)) (by omega)
          (Scanner.ends_cons rfl))
  | (name, value) :: next :: more =>
      obtain ⟨here, later⟩ := List.forall_mem_cons.mp legible
      rw [printMembers_cons_cons, List.length_append, List.length_cons,
        List.length_append, List.length_cons] at room
      rw [printMembers_cons_cons, List.append_assoc, List.cons_append,
        List.append_assoc, List.cons_append]
      exact members?_more name
        (value?_print value here (by omega) (Scanner.ends_cons rfl))
        (members?_printMembers (next :: more) (List.cons_ne_nil _ _) later
          (by omega))

end

theorem read?_render {json : Json} (legible : Legible json) :
    read? (render json) = some json := by
  have found := value?_print json legible
    (Nat.lt_succ_self (print json).length) Scanner.ends_nil
  rw [List.append_nil] at found
  rw [read?, render, String.toList_ofList, found]
  rfl

end GatewayPolicy.Json
