import FormWizard.Proofs.Json.Numbers
import FormWizard.Proofs.Json.Quoting

/-! The compact text of a JSON value determines the value, even where more text follows: what was
printed can be read in one way only.
-/

namespace FormWizard.Json

open Token (isNumeric)

/-- What follows does not go on with a number. -/
def Stops (rest : List Char) : Prop :=
  ∀ c ∈ rest.head?, isNumeric c = false

-----------------------------------------------------------------------------------------
-- Texts as characters
-----------------------------------------------------------------------------------------

/-- What follows an item of an array: the other items, and the end of the array. -/
def afterItem : List Json → List Char
  | [] => [']']
  | item :: rest => ',' :: (item.text.toList ++ afterItem rest)

/-- What follows a member of an object: the other members, and the end of the object. -/
def afterMember : List (String × Json) → List Char
  | [] => ['\x7d']
  | (key, value) :: rest =>
      ',' :: ((quoted key).toList ++ ':' :: (value.text.toList ++ afterMember rest))

theorem toList_text_array_nil : (array []).text.toList = ['[', ']'] := by
  simp [text, itemTexts]

theorem toList_text_array_cons (item : Json) (rest : List Json)
    : (array (item :: rest)).text.toList = '[' :: (item.text.toList ++ afterItem rest) := by
  have joined (first : String)
      : (String.intercalate "," (first :: itemTexts rest)).toList ++ [']']
        = first.toList ++ afterItem rest := by
    induction rest generalizing first with
    | nil => simp [itemTexts, afterItem]
    | cons second rest ih =>
        rw [itemTexts, String.intercalate_cons_cons, String.toList_append, List.append_assoc, ih]
        simp [afterItem]
  simpa [text, itemTexts] using joined item.text

theorem toList_text_object_nil : (object []).text.toList = ['\x7b', '\x7d'] := by
  simp [text, memberTexts]

theorem toList_text_object_cons (member : String × Json) (rest : List (String × Json))
    : (object (member :: rest)).text.toList
      = '\x7b' :: ((quoted member.1).toList
          ++ ':' :: (member.2.text.toList ++ afterMember rest)) := by
  have joined (first : String)
      : (String.intercalate "," (first :: memberTexts rest)).toList ++ ['\x7d']
        = first.toList ++ afterMember rest := by
    induction rest generalizing first with
    | nil => simp [memberTexts, afterMember]
    | cons second rest ih =>
        obtain ⟨key, value⟩ := second
        rw [memberTexts, String.intercalate_cons_cons, String.toList_append, List.append_assoc,
          ih]
        simp [afterMember]
  simpa [text, memberTexts] using joined (quoted member.1 ++ ":" ++ member.2.text)

theorem stops_afterItem (items : List Json) (rest : List Char)
    : Stops (afterItem items ++ rest) := by
  cases items <;> simp [Stops, afterItem, isNumeric]

theorem stops_afterMember (members : List (String × Json)) (rest : List Char)
    : Stops (afterMember members ++ rest) := by
  cases members <;> simp [Stops, afterMember, isNumeric]

-----------------------------------------------------------------------------------------
-- The first character
-----------------------------------------------------------------------------------------

/-- The character that values of one kind start with, zero for all numbers. -/
def lead : Json → Char
  | .null => 'n'
  | .bool true => 't'
  | .bool false => 'f'
  | .number _ => '0'
  | .string _ => '"'
  | .array _ => '['
  | .object _ => '\x7b'

/-- The text of a value starts with the character of its kind. -/
theorem lead_text (value : Json)
    : ∃ c rest, value.text.toList = c :: rest
        ∧ (if isNumeric c then '0' else c) = value.lead := by
  match value with
  | .null => exact ⟨'n', _, rfl, by decide⟩
  | .bool true => exact ⟨'t', _, rfl, by decide⟩
  | .bool false => exact ⟨'f', _, rfl, by decide⟩
  | .number n =>
      obtain ⟨c, rest, digits⟩ := List.exists_cons_of_ne_nil n.text_ne_nil
      exact ⟨c, rest, digits, by
        simp [lead, n.isNumeric_of_mem_text (c := c) (by simp [digits])]⟩
  | .string text => exact ⟨'"', _, toList_quoted text, rfl⟩
  | .array [] => exact ⟨'[', _, toList_text_array_nil, by decide⟩
  | .array (item :: rest) => exact ⟨'[', _, toList_text_array_cons item rest, rfl⟩
  | .object [] => exact ⟨'\x7b', _, toList_text_object_nil, by decide⟩
  | .object (member :: rest) => exact ⟨'\x7b', _, toList_text_object_cons member rest, rfl⟩

/-- Values whose texts start alike are of one kind. -/
theorem lead_eq_of_text_append {left right : Json} {rest more : List Char}
    (same : left.text.toList ++ rest = right.text.toList ++ more)
    : left.lead = right.lead := by
  obtain ⟨c, _, starts, kind⟩ := lead_text left
  obtain ⟨d, _, otherStarts, otherKind⟩ := lead_text right
  rw [starts, otherStarts] at same
  rw [← kind, ← otherKind, (List.cons.inj same).1]

/-- A number ends where no character of numbers follows. -/
theorem number_append_inj {left right : Number} {rest more : List Char} (stops : Stops rest)
    (moreStops : Stops more) (same : left.text.toList ++ rest = right.text.toList ++ more)
    : left = right ∧ rest = more := by
  have ends (n : Number) (rest : List Char) (stops : Stops rest)
      : (n.text.toList ++ rest).takeWhile isNumeric = n.text.toList := by
    rw [List.takeWhile_append_of_pos fun c => n.isNumeric_of_mem_text]
    cases rest with
    | nil => simp
    | cons c rest => simp [stops c rfl]
  have texts := congrArg (List.takeWhile isNumeric) same
  rw [ends left rest stops, ends right more moreStops] at texts
  refine ⟨Number.text_injective (String.toList_injective texts), ?_⟩
  rw [texts] at same
  exact List.append_cancel_left same

/-- No value starts with the end of an array. -/
theorem text_append_ne_closing (value : Json) (rest more : List Char)
    : value.text.toList ++ rest ≠ ']' :: more := by
  intro same
  obtain ⟨c, _, starts, kind⟩ := lead_text value
  rw [starts] at same
  rw [(List.cons.inj same).1] at kind
  cases value with
  | bool b => cases b <;> exact absurd kind (by decide)
  | _ => exact absurd kind (by simp [lead, isNumeric])

-----------------------------------------------------------------------------------------
-- Reading back
-----------------------------------------------------------------------------------------

/-- The text of a value can be read in one way only: it determines the value and what follows. -/
def Readable (left : Json) : Prop :=
  ∀ (right : Json) (rest more : List Char), Stops rest → Stops more
    → left.text.toList ++ rest = right.text.toList ++ more
    → left = right ∧ rest = more

/-- The kinds of value are told apart by the first character. -/
theorem readable_of_lead {left : Json}
    (h : ∀ (right : Json) (rest more : List Char), left.lead = right.lead
      → Stops rest → Stops more
      → left.text.toList ++ rest = right.text.toList ++ more
      → left = right ∧ rest = more)
    : Readable left :=
  fun right rest more stops moreStops same =>
    h right rest more (lead_eq_of_text_append same) stops moreStops same

theorem readable_null : Readable .null := by
  refine readable_of_lead fun right rest more kind _ _ same => ?_
  cases right with
  | null => exact ⟨rfl, List.append_cancel_left same⟩
  | bool b => cases b <;> simp [lead] at kind
  | _ => simp [lead] at kind

theorem readable_bool (value : Bool) : Readable (.bool value) := by
  refine readable_of_lead fun right rest more kind _ _ same => ?_
  cases right with
  | bool other => cases value <;> cases other <;> simp_all [lead]
  | _ => cases value <;> simp [lead] at kind

theorem readable_number (n : Number) : Readable (.number n) := by
  refine readable_of_lead fun right rest more kind stops moreStops same => ?_
  cases right with
  | number m =>
      obtain ⟨rfl, rfl⟩ := number_append_inj stops moreStops same
      exact ⟨rfl, rfl⟩
  | bool b => cases b <;> simp [lead] at kind
  | _ => simp [lead] at kind

theorem readable_string (text : String) : Readable (.string text) := by
  refine readable_of_lead fun right rest more kind _ _ same => ?_
  cases right with
  | string other =>
      obtain ⟨rfl, rfl⟩ := quoted_append_inj same
      exact ⟨rfl, rfl⟩
  | bool b => cases b <;> simp [lead] at kind
  | _ => simp [lead] at kind

/-- What follows an item determines the items after it. -/
theorem afterItem_append_inj {left right : List Json} {rest more : List Char}
    (readable : ∀ item ∈ left, Readable item)
    (same : afterItem left ++ rest = afterItem right ++ more)
    : left = right ∧ rest = more := by
  induction left generalizing right with
  | nil =>
      cases right with
      | nil => exact ⟨rfl, List.append_cancel_left same⟩
      | cons other others => simp [afterItem] at same
  | cons item items ih =>
      cases right with
      | nil => simp [afterItem] at same
      | cons other others =>
          rw [List.forall_mem_cons] at readable
          simp only [afterItem, List.cons_append, List.append_assoc, List.cons.injEq,
            true_and] at same
          obtain ⟨rfl, later⟩ := readable.1 other _ _ (stops_afterItem items rest)
            (stops_afterItem others more) same
          obtain ⟨rfl, rfl⟩ := ih readable.2 later
          exact ⟨rfl, rfl⟩

theorem readable_array {items : List Json} (readable : ∀ item ∈ items, Readable item)
    : Readable (.array items) := by
  refine readable_of_lead fun right rest more kind _ _ same => ?_
  cases right with
  | array others =>
      cases items with
      | nil =>
          cases others with
          | nil => exact ⟨rfl, List.append_cancel_left same⟩
          | cons other others =>
              simp only [toList_text_array_nil, toList_text_array_cons, List.cons_append,
                List.append_assoc, List.cons.injEq, true_and] at same
              exact (text_append_ne_closing _ _ _ same.symm).elim
      | cons item items =>
          cases others with
          | nil =>
              simp only [toList_text_array_nil, toList_text_array_cons, List.cons_append,
                List.append_assoc, List.cons.injEq, true_and] at same
              exact (text_append_ne_closing _ _ _ same).elim
          | cons other others =>
              rw [List.forall_mem_cons] at readable
              simp only [toList_text_array_cons, List.cons_append, List.append_assoc,
                List.cons.injEq, true_and] at same
              obtain ⟨rfl, later⟩ := readable.1 other _ _ (stops_afterItem items rest)
                (stops_afterItem others more) same
              obtain ⟨rfl, rfl⟩ := afterItem_append_inj readable.2 later
              exact ⟨rfl, rfl⟩
  | bool b => cases b <;> simp [lead] at kind
  | _ => simp [lead] at kind

/-- What follows a member determines the members after it. -/
theorem afterMember_append_inj {left right : List (String × Json)} {rest more : List Char}
    (readable : ∀ member ∈ left, Readable member.2)
    (same : afterMember left ++ rest = afterMember right ++ more)
    : left = right ∧ rest = more := by
  induction left generalizing right with
  | nil =>
      cases right with
      | nil => exact ⟨rfl, List.append_cancel_left same⟩
      | cons other others => simp [afterMember] at same
  | cons member members ih =>
      cases right with
      | nil => simp [afterMember] at same
      | cons other others =>
          rw [List.forall_mem_cons] at readable
          simp only [afterMember, List.cons_append, List.append_assoc, List.cons.injEq,
            true_and] at same
          obtain ⟨key, values⟩ := quoted_append_inj same
          obtain ⟨value, later⟩ := readable.1 other.2 _ _ (stops_afterMember members rest)
            (stops_afterMember others more) (List.cons.inj values).2
          obtain ⟨rfl, rfl⟩ := ih readable.2 later
          exact ⟨by rw [Prod.ext key value], rfl⟩

theorem readable_object {members : List (String × Json)}
    (readable : ∀ member ∈ members, Readable member.2)
    : Readable (.object members) := by
  refine readable_of_lead fun right rest more kind _ _ same => ?_
  cases right with
  | object others =>
      cases members with
      | nil =>
          cases others with
          | nil => exact ⟨rfl, List.append_cancel_left same⟩
          | cons other others =>
              simp [toList_text_object_nil, toList_text_object_cons, toList_quoted] at same
      | cons member members =>
          cases others with
          | nil => simp [toList_text_object_nil, toList_text_object_cons, toList_quoted] at same
          | cons other others =>
              rw [List.forall_mem_cons] at readable
              simp only [toList_text_object_cons, List.cons_append, List.append_assoc,
                List.cons.injEq, true_and] at same
              obtain ⟨key, values⟩ := quoted_append_inj same
              obtain ⟨value, later⟩ := readable.1 other.2 _ _ (stops_afterMember members rest)
                (stops_afterMember others more) (List.cons.inj values).2
              obtain ⟨rfl, rfl⟩ := afterMember_append_inj readable.2 later
              exact ⟨by rw [Prod.ext key value], rfl⟩
  | bool b => cases b <;> simp [lead] at kind
  | _ => simp [lead] at kind

mutual

/-- Every value is readable, by mutual induction on the value and the lists in it. -/
theorem readable : (value : Json) → Readable value
  | .null => readable_null
  | .bool value => readable_bool value
  | .number n => readable_number n
  | .string text => readable_string text
  | .array items => readable_array (readable_items items)
  | .object members => readable_object (readable_members members)

theorem readable_items : (items : List Json) → ∀ item ∈ items, Readable item
  | [] => by simp
  | item :: rest => List.forall_mem_cons.mpr ⟨readable item, readable_items rest⟩

theorem readable_members
    : (members : List (String × Json)) → ∀ member ∈ members, Readable member.2
  | [] => by simp
  | (_, value) :: rest => List.forall_mem_cons.mpr ⟨readable value, readable_members rest⟩

end

/-- Values with the same text are the same. -/
theorem text_injective : Function.Injective text := by
  intro left right same
  exact (readable left right [] [] (by simp [Stops]) (by simp [Stops]) (by rw [same])).1

-----------------------------------------------------------------------------------------
-- Characters of a text
-----------------------------------------------------------------------------------------

theorem isPrintable_of_isNumeric {c : Char} (h : isNumeric c = true) : IsPrintable c := by
  simp only [isNumeric, Bool.or_eq_true, beq_iff_eq] at h
  rcases h with ((((digit | rfl) | rfl) | rfl) | rfl) | rfl
  · have range := Text.isDigit_iff.mp digit
    unfold IsPrintable
    omega
  all_goals
    decide

theorem isPrintable_of_all {chars : List Char} (h : chars.all (IsPrintable ·) = true)
    : ∀ c ∈ chars, IsPrintable c := by
  simpa using h

mutual

/-- No control character stands in the text of a value. -/
theorem isPrintable_of_mem_text (value : Json) : ∀ c ∈ value.text.toList, IsPrintable c := by
  match value with
  | .null | .bool true | .bool false =>
      exact isPrintable_of_all (by decide)
  | .number n => exact fun c member => isPrintable_of_isNumeric (n.isNumeric_of_mem_text member)
  | .string text => exact fun c member => isPrintable_of_mem_quoted member
  | .array [] =>
      rw [toList_text_array_nil]
      exact isPrintable_of_all (by decide)
  | .array (item :: rest) =>
      rw [toList_text_array_cons, List.forall_mem_cons, List.forall_mem_append]
      exact ⟨by decide, isPrintable_of_mem_text item,
        isPrintable_of_mem_afterItem rest⟩
  | .object [] =>
      rw [toList_text_object_nil]
      exact isPrintable_of_all (by decide)
  | .object ((key, value) :: rest) =>
      rw [toList_text_object_cons, List.forall_mem_cons, List.forall_mem_append,
        List.forall_mem_cons, List.forall_mem_append]
      exact ⟨by decide, fun c => isPrintable_of_mem_quoted,
        by decide, isPrintable_of_mem_text value,
        isPrintable_of_mem_afterMember rest⟩

theorem isPrintable_of_mem_afterItem (items : List Json)
    : ∀ c ∈ afterItem items, IsPrintable c := by
  match items with
  | [] =>
      exact isPrintable_of_all (by decide)
  | item :: rest =>
      rw [afterItem, List.forall_mem_cons, List.forall_mem_append]
      exact ⟨by decide, isPrintable_of_mem_text item,
        isPrintable_of_mem_afterItem rest⟩

theorem isPrintable_of_mem_afterMember (members : List (String × Json))
    : ∀ c ∈ afterMember members, IsPrintable c := by
  match members with
  | [] =>
      exact isPrintable_of_all (by decide)
  | (key, value) :: rest =>
      rw [afterMember, List.forall_mem_cons, List.forall_mem_append, List.forall_mem_cons,
        List.forall_mem_append]
      exact ⟨by decide, fun c => isPrintable_of_mem_quoted,
        by decide, isPrintable_of_mem_text value,
        isPrintable_of_mem_afterMember rest⟩

end

end FormWizard.Json
