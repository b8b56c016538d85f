import VersionedStore.Proofs.Json.Tokens
import VersionedStore.Schema.Read

/-!
# JSON text reads as the value

A value without doubles reads back from its text, as long as it is not nested deeper than there is
room for. Items and members are read one after the other, whatever reads one of them: `Taken` says
that members lead from one state of a record to another.
-/

namespace VersionedStore

namespace Json

mutual

/-- Is the value without doubles, and its integers such as a JSON number holds? -/
def isPlain : Json → Bool
  | .float _ => false
  | .int n => decide (Fits n)
  | .arr items => arePlainItems items
  | .obj members => arePlainMembers members
  | _ => true

/-- Is every item plain? -/
def arePlainItems : List Json → Bool
  | [] => true
  | v :: rest => isPlain v && arePlainItems rest

/-- Is the value of every member plain? -/
def arePlainMembers : List (String × Json) → Bool
  | [] => true
  | (_, v) :: rest => isPlain v && arePlainMembers rest

end

mutual

/-- How deep containers are nested. -/
def depth : Json → Nat
  | .arr items => depthOfItems items + 1
  | .obj members => depthOfMembers members + 1
  | _ => 0

/-- The depth of the deepest item. -/
def depthOfItems : List Json → Nat
  | [] => 0
  | v :: rest => max (depth v) (depthOfItems rest)

/-- The depth of the deepest value of a member. -/
def depthOfMembers : List (String × Json) → Nat
  | [] => 0
  | (_, v) :: rest => max (depth v) (depthOfMembers rest)

end

/-- The value is plain and not nested deeper than there is room for. -/
structure Readable (room : Nat) (v : Json) : Prop where
  plain : v.isPlain = true
  shallow : v.depth < room

private theorem plain_items {vs : List Json} :
    arePlainItems vs = true ↔ ∀ v ∈ vs, v.isPlain = true := by
  induction vs with
  | nil => exact iff_of_true rfl fun _ h ↦ nomatch h
  | cons v vs ih => rw [arePlainItems, Bool.and_eq_true, ih, List.forall_mem_cons]

private theorem plain_members {ms : List (String × Json)} (h : arePlainMembers ms = true) :
    ∀ m ∈ ms, m.2.isPlain = true := by
  induction ms with
  | nil => exact fun _ h ↦ nomatch h
  | cons m ms ih =>
    rw [arePlainMembers, Bool.and_eq_true] at h
    exact List.forall_mem_cons.mpr ⟨h.1, ih h.2⟩

private theorem depth_items {vs : List Json} {n : Nat} :
    depthOfItems vs ≤ n ↔ ∀ v ∈ vs, v.depth ≤ n := by
  induction vs with
  | nil => exact iff_of_true (Nat.zero_le n) fun _ h ↦ nomatch h
  | cons v vs ih => rw [depthOfItems, Nat.max_le, ih, List.forall_mem_cons]

private theorem depth_members (ms : List (String × Json)) :
    ∀ m ∈ ms, m.2.depth ≤ depthOfMembers ms := by
  induction ms with
  | nil => exact fun _ h ↦ nomatch h
  | cons m ms ih =>
    rw [List.forall_mem_cons, depthOfMembers]
    exact ⟨Nat.le_max_left .., fun n hn ↦ Nat.le_trans (ih n hn) (Nat.le_max_right ..)⟩

/-- A list needs room for its items. -/
theorem Readable.items {room : Nat} {vs : List Json} (h : Readable room (.arr vs)) :
    ∃ inner, room = inner + 2 ∧ ∀ v ∈ vs, Readable (inner + 1) v := by
  have shallow := h.shallow
  rw [depth] at shallow
  refine ⟨room - 2, by omega, fun v hv ↦ ⟨plain_items.mp h.plain v hv, ?_⟩⟩
  have := depth_items.mp (Nat.le_refl _) v hv
  omega

/-- Where there is room for its items, there is room for a list. -/
theorem readable_arr {inner : Nat} {vs : List Json} (h : ∀ v ∈ vs, Readable (inner + 1) v) :
    Readable (inner + 2) (.arr vs) where
  plain := plain_items.mpr fun v hv ↦ (h v hv).plain
  shallow := by
    have := depth_items.mpr fun v hv ↦ Nat.le_of_lt_succ (h v hv).shallow
    rw [depth]
    omega

/-- An object needs room for the values of its members. -/
theorem Readable.members {room : Nat} {ms : List (String × Json)} (h : Readable room (.obj ms)) :
    ∃ inner, room = inner + 2 ∧ ∀ m ∈ ms, Readable (inner + 1) m.2 := by
  have shallow := h.shallow
  rw [depth] at shallow
  refine ⟨room - 2, by omega, fun m hm ↦ ⟨plain_members h.plain m hm, ?_⟩⟩
  have := depth_members ms m hm
  omega

/-- A character that the text of a value may begin with. -/
structure Opening (c : Char) : Prop where
  solid : isGap c = false
  inside : c ≠ ']'

private theorem opening_of_digit {c : Char} (h : (Text.Decimal.digit? c).isSome = true) :
    Opening c ∧ c ≠ 'n' := by
  refine ⟨⟨?_, ?_⟩, ?_⟩
  · simp only [isGap, Bool.or_eq_false_iff, beq_eq_false_iff_ne]
    refine ⟨⟨⟨?_, ?_⟩, ?_⟩, ?_⟩ <;> (rintro rfl; exact absurd h (by decide))
  · rintro rfl
    exact absurd h (by decide)
  · rintro rfl
    exact absurd h (by decide)

/-- The text of a plain value begins with an opening character, which tells whether it is null. -/
theorem chars_opening {v : Json} (plain : v.isPlain = true) :
    ∃ c cs, v.chars = c :: cs ∧ Opening c ∧ (v ≠ .null → c ≠ 'n') := by
  cases v with
  | null => exact ⟨'n', _, rfl, ⟨rfl, by decide⟩, fun h ↦ absurd rfl h⟩
  | bool b => cases b <;> exact ⟨_, _, rfl, ⟨rfl, by decide⟩, fun _ ↦ by decide⟩
  | float x => cases plain
  | str s => exact ⟨'"', _, rfl, ⟨rfl, by decide⟩, fun _ ↦ by decide⟩
  | arr vs => cases vs <;> exact ⟨'[', _, rfl, ⟨rfl, by decide⟩, fun _ ↦ by decide⟩
  | obj ms => cases ms <;> exact ⟨'\x7b', _, rfl, ⟨rfl, by decide⟩, fun _ ↦ by decide⟩
  | int n =>
    obtain ⟨k, -, shape, -⟩ | ⟨k, -, shape, -⟩ := intChars_cases (of_decide_eq_true plain)
    · cases front : Text.Decimal.digits k with
      | nil => exact absurd front (Text.Decimal.digits_ne_nil k)
      | cons c cs =>
        obtain ⟨opening, other⟩ := opening_of_digit
          (Text.Decimal.digit?_of_mem_digits k c (front ▸ List.mem_cons_self))
        exact ⟨c, cs, shape.trans front, opening, fun _ ↦ other⟩
    · exact ⟨'-', _, shape, ⟨rfl, by decide⟩, fun _ ↦ by decide⟩

/-- There is no gap before a plain value. -/
theorem skipGap_chars {v : Json} (plain : v.isPlain = true) (rest : List Char) :
    skipGap (v.chars ++ rest) = v.chars ++ rest := by
  obtain ⟨c, cs, shape, opening, -⟩ := chars_opening plain
  rw [shape]
  exact skipGap_cons_of_not_gap opening.solid _

/-! ### Lists -/

/-- The text of a list behind its opening bracket. -/
def firstItemChars : List Json → List Char
  | [] => [']']
  | v :: rest => v.chars ++ itemChars rest

/-- A list is written behind its opening bracket. -/
theorem chars_arr (vs : List Json) : (arr vs).chars = '[' :: firstItemChars vs := by
  cases vs <;> rfl

private theorem closed_itemChars (vs : List Json) (rest : List Char) :
    Closed (itemChars vs ++ rest) := by
  cases vs <;> exact closed_cons.mpr (by decide)

private theorem nextItem_first {v : Json} (plain : v.isPlain = true) (rest : List Char) :
    nextItem true (v.chars ++ rest) = .ok (some (v.chars ++ rest)) := by
  obtain ⟨c, cs, shape, opening, -⟩ := chars_opening plain
  unfold nextItem
  rw [skipGap_chars plain, shape]
  split
  · next nothing => cases nothing
  · next eq => exact absurd (List.cons.inj eq).1 opening.inside
  · next eq => rw [← eq, if_pos rfl]

private theorem nextItem_next {v : Json} (plain : v.isPlain = true) (rest : List Char) :
    nextItem false (',' :: (v.chars ++ rest)) = .ok (some (v.chars ++ rest)) := by
  obtain ⟨c, cs, shape, opening, -⟩ := chars_opening plain
  have comma : skipGap (',' :: (v.chars ++ rest)) = ',' :: (v.chars ++ rest) := rfl
  unfold nextItem
  rw [comma]
  split
  · next nothing => cases nothing
  · next eq => exact absurd (List.cons.inj eq).1 (by decide)
  · next eq =>
    obtain ⟨rfl, rfl⟩ := List.cons.inj eq
    rw [if_neg Bool.false_ne_true, if_pos rfl, skipGap_chars plain, shape]
    split
    · next nothing => cases nothing
    · next eq => exact absurd (List.cons.inj eq).1 opening.inside
    · rfl

/-- Items are written so that each reads as its value, whatever does not go on with a number
follows. -/
def ReadsItems {α : Type} (item : Reader α) (g : α → Json) (vs : List α) : Prop :=
  ∀ v ∈ vs, (g v).isPlain = true ∧
    ∀ rest, Closed rest → item ((g v).chars ++ rest) = .ok (v, rest)

private theorem readItems_next {α : Type} {item : Reader α} {g : α → Json} {vs : List α}
    (reads : ReadsItems item g vs) {steps : Nat} (enough : vs.length < steps) (rest : List Char) :
    readItems item steps false (itemChars (vs.map g) ++ rest) = .ok (vs, ']' :: rest) := by
  induction vs generalizing steps with
  | nil =>
    obtain ⟨steps, rfl⟩ := Nat.exists_eq_add_of_lt enough
    rfl
  | cons v vs ih =>
    cases steps with
    | zero => exact absurd enough (Nat.not_lt_zero _)
    | succ steps =>
      obtain ⟨⟨plain, first⟩, others⟩ := List.forall_mem_cons.mp reads
      have follows := ih others (Nat.lt_of_succ_lt_succ enough)
      rw [List.map_cons, itemChars, List.cons_append, List.cons_append, List.append_assoc]
      refine (bind_of_ok (nextItem_next plain _) _).trans ?_
      refine (bind_of_ok (first _ (closed_itemChars _ rest)) _).trans ?_
      exact bind_of_ok follows _

private theorem length_le_itemChars (vs : List Json) : vs.length < (itemChars vs).length := by
  induction vs with
  | nil => exact Nat.zero_lt_one
  | cons v vs ih =>
    rw [itemChars, List.length_append, List.length_cons, List.length_cons]
    omega

/-- Items are read behind the opening bracket of their list, up to the closing one. -/
theorem readItems_firstItemChars {α : Type} {item : Reader α} {g : α → Json} {vs : List α}
    (reads : ReadsItems item g vs) (rest : List Char) :
    readItems item ((firstItemChars (vs.map g) ++ rest).length + 1) true
      (firstItemChars (vs.map g) ++ rest) = .ok (vs, ']' :: rest) := by
  cases vs with
  | nil => rfl
  | cons v vs =>
    obtain ⟨⟨plain, first⟩, others⟩ := List.forall_mem_cons.mp reads
    have long := length_le_itemChars (vs.map g)
    have enough : vs.length < (firstItemChars ((v :: vs).map g) ++ rest).length := by
      rw [List.map_cons, firstItemChars, List.length_append, List.length_append]
      rw [List.length_map] at long
      omega
    have follows := readItems_next others enough rest
    rw [List.map_cons, firstItemChars, List.append_assoc] at follows ⊢
    refine (bind_of_ok (nextItem_first plain _) _).trans ?_
    refine (bind_of_ok (first _ (closed_itemChars _ rest)) _).trans ?_
    exact bind_of_ok follows _

/-! ### Objects -/

/-- The text of an object behind its opening brace. -/
def firstMemberChars : List (String × Json) → List Char
  | [] => ['\x7d']
  | (k, v) :: rest => stringChars k ++ ':' :: v.chars ++ memberChars rest

/-- An object is written behind its opening brace. -/
theorem chars_obj (ms : List (String × Json)) : (obj ms).chars = '\x7b' :: firstMemberChars ms := by
  cases ms <;> rfl

private theorem closed_memberChars (ms : List (String × Json)) (rest : List Char) :
    Closed (memberChars ms ++ rest) := by
  cases ms <;> exact closed_cons.mpr (by decide)

/-- A string is read behind its opening quote, up to the closing one. -/
theorem readString_stringChars (s : String) (rest : List Char) :
    readString ((stringChars s).tail ++ rest) = .ok (s, rest) := by
  have shape : (stringChars s).tail ++ rest = s.toList.flatMap escapeChar ++ '"' :: rest := by
    rw [stringChars, List.cons_append, List.tail_cons, List.append_assoc, List.singleton_append]
  rw [shape, readString_escaped]

private theorem nextKey_first (k : String) (rest : List Char) :
    nextKey true (stringChars k ++ rest) = .ok (some (k, rest)) :=
  congrArg (Except.map some) (readString_stringChars k rest)

private theorem nextKey_next (k : String) (rest : List Char) :
    nextKey false (',' :: (stringChars k ++ rest)) = .ok (some (k, rest)) :=
  congrArg (Except.map some) (readString_stringChars k rest)

variable {P : Type} {take : String → P → List Char → Except Fault (Option (P × List Char))}

/-- Members are taken one after the other and lead from one state to another. -/
inductive Taken (take : String → P → List Char → Except Fault (Option (P × List Char))) :
    List (String × Json) → P → P → Prop where
  | nil (p : P) : Taken take [] p p
  | cons {k : String} {v : Json} {ms : List (String × Json)} {p next q : P}
      (first : ∀ rest, Closed rest → take k p (':' :: (v.chars ++ rest)) = .ok (some (next, rest)))
      (others : Taken take ms next q) : Taken take ((k, v) :: ms) p q

private theorem readMembers_next (closed : Bool) (names : List String)
    {ms : List (String × Json)} {p q : P} (taken : Taken take ms p q) {steps : Nat}
    (enough : ms.length < steps) (rest : List Char) :
    readMembers closed names take steps false p (memberChars ms ++ rest) =
      .ok (q, '\x7d' :: rest) := by
  induction taken generalizing steps with
  | nil p =>
    obtain ⟨steps, rfl⟩ := Nat.exists_eq_add_of_lt enough
    rfl
  | @cons k v ms p next q first others ih =>
    cases steps with
    | zero => exact absurd enough (Nat.not_lt_zero _)
    | succ steps =>
      have follows := ih (Nat.lt_of_succ_lt_succ enough)
      rw [memberChars]
      simp only [List.cons_append, List.append_assoc]
      refine (bind_of_ok (nextKey_next k _) _).trans ?_
      refine (bind_of_ok (first _ (closed_memberChars _ rest)) _).trans ?_
      exact follows

private theorem length_le_memberChars (ms : List (String × Json)) :
    ms.length < (memberChars ms).length := by
  induction ms with
  | nil => exact Nat.zero_lt_one
  | cons m ms ih =>
    rw [memberChars, List.length_append, List.length_append, List.length_cons, List.length_cons]
    omega

/-- Members are read behind the opening brace of their object, up to the closing one. -/
theorem Taken.readMembers (closed : Bool) (names : List String) {ms : List (String × Json)}
    {p q : P} (taken : Taken take ms p q) (rest : List Char) :
    VersionedStore.readMembers closed names take ((firstMemberChars ms ++ rest).length + 1) true p
      (firstMemberChars ms ++ rest) = .ok (q, '\x7d' :: rest) := by
  cases taken with
  | nil => rfl
  | @cons k v ms p next q first others =>
    have long := length_le_memberChars ms
    have enough : ms.length < (firstMemberChars ((k, v) :: ms) ++ rest).length := by
      rw [firstMemberChars, List.length_append, List.length_append]
      omega
    have follows := readMembers_next closed names others enough rest
    rw [firstMemberChars] at follows ⊢
    simp only [List.append_assoc, List.cons_append] at follows ⊢
    refine (bind_of_ok (nextKey_first k _) _).trans ?_
    refine (bind_of_ok (first _ (closed_memberChars _ rest)) _).trans ?_
    exact follows

/-! ### Values -/

/-- The text of a number begins with a minus sign or a digit, behind which it is read. -/
theorem readUnsigned_chars {n : Int} (fits : Fits n) {rest : List Char} (closed : Closed rest) :
    (∃ c cs, (int n).chars ++ rest = c :: cs ∧ isDigit c = true ∧
      readUnsigned false (c :: cs) = .ok (.int n, rest)) ∨
    (∃ cs, (int n).chars ++ rest = '-' :: cs ∧ readUnsigned true cs = .ok (.int n, rest)) := by
  obtain ⟨k, small, shape, made⟩ | ⟨k, small, shape, made⟩ := intChars_cases fits
  · left
    have read := readUnsigned_digits false small closed
    cases front : Text.Decimal.digits k with
    | nil => exact absurd front (Text.Decimal.digits_ne_nil k)
    | cons c cs =>
      have digit : isDigit c = true :=
        Text.Decimal.digit?_of_mem_digits k c (front ▸ List.mem_cons_self)
      rw [made, front] at read
      exact ⟨c, cs ++ rest, by rw [chars, shape, front]; rfl, digit, read⟩
  · right
    have read := readUnsigned_digits true small closed
    rw [made] at read
    exact ⟨_, by rw [chars, shape]; rfl, read⟩

private theorem ne_of_isDigit {c d : Char} (digit : isDigit c = true) (other : isDigit d = false) :
    c ≠ d := by
  rintro rfl
  rw [digit] at other
  cases other

/-- An integer is read from its text, and converted. -/
theorem readNumberAs_chars {α : Type} {expected : String} {convert : Int → Except Fault α} {n : Int}
    {v : α} (fits : Fits n) (made : convert n = .ok v) {rest : List Char} (closed : Closed rest) :
    readNumberAs expected convert ((int n).chars ++ rest) = .ok (v, rest) := by
  obtain ⟨c, cs, shape, digit, read⟩ | ⟨cs, shape, read⟩ := readUnsigned_chars fits closed
  · rw [shape]
    unfold readNumberAs
    split
    · next eq => exact absurd (List.cons.inj eq).1 (ne_of_isDigit digit (by decide))
    · next eq =>
      obtain ⟨rfl, rfl⟩ := List.cons.inj eq
      rw [if_pos digit]
      exact (bind_of_ok read _).trans (bind_of_ok made _)
    · next nothing => cases nothing
  · rw [shape]
    exact (bind_of_ok read _).trans (bind_of_ok made _)

private theorem taken_append {value : Reader Json} (ms acc : List (String × Json))
    (reads : ∀ m ∈ ms, ∀ rest, Closed rest → value (m.2.chars ++ rest) = .ok (m.2, rest)) :
    Taken (fun key acc cs ↦ do
      let (v, cs) ← readColon cs >>= value
      .ok (some (acc ++ [(key, v)], cs))) ms acc (acc ++ ms) := by
  induction ms generalizing acc with
  | nil =>
    rw [List.append_nil]
    exact .nil acc
  | cons m ms ih =>
    obtain ⟨first, others⟩ := List.forall_mem_cons.mp reads
    have follows := ih (acc ++ [m]) others
    rw [List.append_assoc] at follows
    exact .cons (fun rest closed ↦ bind_of_ok (first rest closed) _) follows

/-- A value reads back from its text, whatever does not go on with a number follows. -/
theorem readJson_chars {room : Nat} {v : Json} (readable : Readable room v) {rest : List Char}
    (closed : Closed rest) : readJson room (v.chars ++ rest) = .ok (v, rest) := by
  induction room using Nat.strongRecOn generalizing v rest with
  | _ room ih =>
    unfold readJson
    rw [skipGap_chars readable.plain]
    cases v with
    | null => rfl
    | bool b => cases b <;> rfl
    | float x => cases readable.plain
    | str s => exact congrArg (Except.map fun p ↦ (str p.1, p.2)) (readString_stringChars s rest)
    | int n =>
      obtain ⟨c, cs, shape, digit, read⟩ | ⟨cs, shape, read⟩ :=
        readUnsigned_chars (of_decide_eq_true readable.plain) closed
      · rw [shape]
        -- No other kind of value begins with a digit.
        split
        · next nothing => cases nothing
        iterate 7 next eq => exact absurd (List.cons.inj eq).1 (ne_of_isDigit digit (by decide))
        · next eq =>
          obtain ⟨rfl, rfl⟩ := List.cons.inj eq
          rw [if_pos digit, read]
          rfl
      · rw [shape]
        exact congrArg (Except.map fun p ↦ (p.1.toJson, p.2)) read
    | arr vs =>
      obtain ⟨inner, rfl, items⟩ := readable.items
      rw [chars_arr, List.cons_append]
      have reads : ReadsItems (readJson (inner + 1)) id vs := fun v hv ↦
        ⟨(items v hv).plain, fun rest closed ↦
          ih (inner + 1) (Nat.lt_succ_self _) (items v hv) closed⟩
      have read := readItems_firstItemChars reads rest
      rw [List.map_id] at read
      exact (bind_of_ok read _).trans rfl
    | obj ms =>
      obtain ⟨inner, rfl, members⟩ := readable.members
      rw [chars_obj, List.cons_append]
      have taken := taken_append ms [] fun m hm rest closed ↦
        ih (inner + 1) (Nat.lt_succ_self _) (members m hm) closed
      exact (bind_of_ok (taken.readMembers false [] rest) _).trans rfl

end Json

end VersionedStore
