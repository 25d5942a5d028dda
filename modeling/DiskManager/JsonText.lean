import DiskManager.JsonCodec

/-!
# JSON texts

Objects hold their members in the order of their keys, and `JsonText` is what the service relies on
where it reads what it has written itself: `dump` loses nothing. `TextJson` is a codec for all JSON
values that meets it.

* `lookup_insertMember`, `member_ofMembers`: members after an assignment, and of an object made of
  assignments.
* `TextJson.parse_dump`: the codec reads what it writes.
-/

namespace DiskManager

namespace Json

/-! ## Objects -/

/-- The members come in the order of their keys, no key twice. -/
def Ordered (members : List (CppString × Json)) : Prop :=
  members.Pairwise fun m m' => compare m.1 m'.1 = .lt

/-- An object made by assignments. -/
def ofMembers (members : List (CppString × Json)) : Json :=
  .object (members.foldl (fun object member => insertMember member.1 member.2 object) [])

section

variable {key k : CppString} {value : Json} {members : List (CppString × Json)}

theorem lookup_cons : ((key, value) :: members).lookup k =
    if k = key then some value else members.lookup k := by
  rw [List.lookup_cons]
  by_cases same : k = key
  · subst same
    simp
  · rw [if_neg same, beq_eq_false_iff_ne.mpr same]

theorem lookup_insertMember :
    (insertMember key value members).lookup k =
      if k = key then some value else members.lookup k := by
  induction members with
  | nil => exact lookup_cons
  | cons m members ih =>
      obtain ⟨k', v'⟩ := m
      rw [insertMember]
      split
      next same =>
        subst same
        rw [lookup_cons, lookup_cons]
        split <;> rfl
      next ne =>
      split
      · exact lookup_cons
      · rw [lookup_cons, ih, lookup_cons]
        by_cases eq : k = k'
        · subst eq
          rw [if_pos rfl, if_pos rfl, if_neg fun same => ne same.symm]
        · rw [if_neg eq, if_neg eq]

theorem mem_insertMember {m : CppString × Json} (mem : m ∈ insertMember key value members) :
    m = (key, value) ∨ m ∈ members := by
  induction members with
  | nil =>
      rw [insertMember, List.mem_singleton] at mem
      exact .inl mem
  | cons m' members ih =>
      obtain ⟨k', v'⟩ := m'
      rw [insertMember] at mem
      split at mem
      next => exact (List.mem_cons.mp mem).imp id (List.mem_cons_of_mem _)
      next =>
      split at mem
      · exact List.mem_cons.mp mem
      · rcases List.mem_cons.mp mem with rfl | mem
        · exact .inr List.mem_cons_self
        · exact (ih mem).imp id (List.mem_cons_of_mem _)

theorem ordered_insertMember (ordered : Ordered members) :
    Ordered (insertMember key value members) := by
  induction members with
  | nil => simp [insertMember, Ordered]
  | cons m members ih =>
      obtain ⟨k', v'⟩ := m
      obtain ⟨first, rest⟩ := List.pairwise_cons.mp ordered
      rw [insertMember]
      split
      next same =>
        subst same
        exact List.pairwise_cons.mpr ⟨first, rest⟩
      next ne =>
      split
      next less =>
        refine List.pairwise_cons.mpr ⟨fun m mem => ?_, ordered⟩
        rcases List.mem_cons.mp mem with rfl | mem
        · exact less
        · exact Std.TransCmp.lt_trans less (first m mem)
      next notLess =>
        refine List.pairwise_cons.mpr ⟨fun m mem => ?_, ih rest⟩
        rcases mem_insertMember mem with rfl | mem
        · have ne' : compare k' key ≠ .eq := fun eq =>
            ne (Std.LawfulEqCmp.compare_eq_iff_eq.mp eq).symm
          have notMore : compare k' key ≠ .gt := fun more =>
            notLess (Std.OrientedCmp.lt_of_gt more)
          cases order : compare k' key with
          | lt => rfl
          | eq => exact absurd order ne'
          | gt => exact absurd order notMore
        · exact first m mem

/-- A member that comes last is put at the end. -/
theorem insertMember_last (last : ∀ m ∈ members, compare m.1 key = .lt) :
    insertMember key value members = members ++ [(key, value)] := by
  induction members with
  | nil => rfl
  | cons m members ih =>
      obtain ⟨k', v'⟩ := m
      have before : compare k' key = .lt := last _ List.mem_cons_self
      have ne : ¬ key = k' := by
        rintro rfl
        rw [show compare key key = .eq from Std.ReflCmp.compare_self] at before
        cases before
      have notLess : ¬ compare key k' = .lt := fun less => by
        rw [Std.OrientedCmp.gt_of_lt less] at before
        cases before
      rw [insertMember, if_neg ne, if_neg notLess,
        ih fun m mem => last m (List.mem_cons_of_mem _ mem), List.cons_append]

theorem member_setMember (object : List (CppString × Json)) :
    ((Json.object object).setMember key value).member? k =
      if k = key then some value else (Json.object object).member? k :=
  lookup_insertMember

end

/-- What is in an object made by assignments: the last one of each key. -/
theorem member_ofMembers (members : List (CppString × Json)) (key : CppString) :
    (ofMembers members).member? key = members.reverse.lookup key := by
  have general : ∀ object : List (CppString × Json),
      (members.foldl (fun object member => insertMember member.1 member.2 object) object).lookup key =
        (members.reverse ++ object).lookup key := by
    induction members with
    | nil => exact fun object => rfl
    | cons m members ih =>
        intro object
        obtain ⟨k, v⟩ := m
        rw [List.foldl_cons, ih, List.reverse_cons, List.append_assoc, List.lookup_append,
          List.lookup_append, lookup_insertMember, List.singleton_append, lookup_cons]
  rw [ofMembers, member?, general, List.append_nil]

theorem ordered_ofMembers {members object : List (CppString × Json)}
    (same : ofMembers members = .object object) : Ordered object := by
  have general : ∀ object : List (CppString × Json), Ordered object →
      Ordered (members.foldl (fun object member => insertMember member.1 member.2 object)
        object) := by
    clear same
    induction members with
    | nil => exact fun object ordered => ordered
    | cons m members ih => exact fun object ordered => ih _ (ordered_insertMember ordered)
  rw [ofMembers, Json.object.injEq] at same
  exact same ▸ general [] List.Pairwise.nil

theorem mem_ofMembers {members object : List (CppString × Json)}
    (same : ofMembers members = .object object) {m : CppString × Json} (mem : m ∈ object) :
    m ∈ members := by
  have general : ∀ object : List (CppString × Json),
      m ∈ members.foldl (fun object member => insertMember member.1 member.2 object) object →
        m ∈ members ∨ m ∈ object := by
    clear same
    induction members with
    | nil => exact fun object mem => .inr mem
    | cons m' members ih =>
        intro object mem
        rcases ih _ mem with mem | mem
        · exact .inl (List.mem_cons_of_mem _ mem)
        · rcases mem_insertMember mem with rfl | mem
          · exact .inl List.mem_cons_self
          · exact .inr mem
  rw [ofMembers, Json.object.injEq] at same
  subst same
  rcases general [] mem with mem | mem
  · exact mem
  · cases mem

/-- Members that come in order make the object they are. -/
theorem ofMembers_ordered {members : List (CppString × Json)} (ordered : Ordered members) :
    ofMembers members = .object members := by
  have general : ∀ object : List (CppString × Json), Ordered (object ++ members) →
      members.foldl (fun object member => insertMember member.1 member.2 object) object =
        object ++ members := by
    clear ordered
    induction members with
    | nil => exact fun object _ => (List.append_nil object).symm
    | cons m members ih =>
        intro object ordered
        have last : ∀ m' ∈ object, compare m'.1 m.1 = .lt := fun m' mem =>
          (List.pairwise_append.mp ordered).2.2 m' mem m List.mem_cons_self
        rw [List.foldl_cons, insertMember_last last, ih, List.append_assoc]
        · rfl
        · rwa [List.append_assoc]
  rw [ofMembers, general [] ordered, List.nil_append]

/-! ## Values as the library holds them -/

/-- Strings are UTF-8, objects are ordered, and numbers are texts that `dump` writes. -/
inductive Canonical (Numeral : CppString → Prop) : Json → Prop
  | null : Canonical Numeral .null
  | bool (b : Bool) : Canonical Numeral (.bool b)
  | number {literal : CppString} : Numeral literal → Canonical Numeral (.number literal)
  | string {s : CppString} : CppString.isUtf8 s = true → Canonical Numeral (.string s)
  | array {items : List Json} : (∀ item ∈ items, Canonical Numeral item) →
    Canonical Numeral (.array items)
  | object {members : List (CppString × Json)} : Ordered members →
    (∀ m ∈ members, CppString.isUtf8 m.1 = true) → (∀ m ∈ members, Canonical Numeral m.2) →
    Canonical Numeral (.object members)

section

variable {Numeral : CppString → Prop}

theorem canonical_ofMembers {members : List (CppString × Json)}
    (each : ∀ m ∈ members, CppString.isUtf8 m.1 = true ∧ Canonical Numeral m.2) :
    Canonical Numeral (ofMembers members) := by
  refine .object (ordered_ofMembers rfl) (fun m mem => ?_) fun m mem => ?_
  · exact (each m (mem_ofMembers rfl mem)).1
  · exact (each m (mem_ofMembers rfl mem)).2

theorem Canonical.setMember {object : List (CppString × Json)} {key : CppString} {value : Json}
    (canonical : Canonical Numeral (.object object)) (utf8 : CppString.isUtf8 key = true)
    (value' : Canonical Numeral value) :
    Canonical Numeral ((Json.object object).setMember key value) := by
  cases canonical with
  | object ordered keys values =>
      refine .object (ordered_insertMember ordered) (fun m mem => ?_) fun m mem => ?_
      · rcases mem_insertMember mem with rfl | mem
        · exact utf8
        · exact keys m mem
      · rcases mem_insertMember mem with rfl | mem
        · exact value'
        · exact values m mem

theorem Canonical.member {j value : Json} {key : CppString} (canonical : Canonical Numeral j)
    (found : j.member? key = some value) : Canonical Numeral value := by
  cases canonical with
  | object ordered keys values =>
      obtain ⟨before, after, split, -⟩ := List.lookup_eq_some_iff.mp found
      exact values (key, value) (by simp [split])
  | _ => cases found

end

end Json

/-- `dump` and `parse`, as the service relies on them: a parsed value is canonical, integers that
fit the library's types are numerals, and what is dumped is parsed again. -/
class JsonText extends JsonLib where
  Numeral : CppString → Prop
  numeral_ofInt (n : Int) : -2 ^ 63 ≤ n → n < 2 ^ 64 → Numeral (CppString.ofInt n)
  parse_nil : parse [] = none
  parse_canonical {text : CppString} {j : Json} : parse text = some j → j.Canonical Numeral
  parse_dump {j : Json} : j.Canonical Numeral → parse (dump j) = some j

/-! ## A codec -/

namespace TextJson

open TableJson

def isNumeral (c : Char) : Bool := c.isDigit || c = '-' || c = '+' || c = '.' || c = 'e'

/-- A text that is all numeral. -/
def Numeral (literal : CppString) : Prop := literal ≠ [] ∧ ∀ c ∈ literal, isNumeral c = true

/-- The string up to the closing quote, refused when it is not UTF-8. -/
def parseString (text : CppString) : Option (CppString × CppString) :=
  (unquote text).filter fun read => CppString.isUtf8 read.1

def parseNumber (text : CppString) : Option (Json × CppString) :=
  if (text.takeWhile isNumeral).isEmpty then none
  else some (.number (text.takeWhile isNumeral), text.dropWhile isNumeral)

mutual

def parseValue : Nat → CppString → Option (Json × CppString)
  | 0, _ => none
  | _ + 1, [] => none
  | fuel + 1, c :: rest =>
      if c = '"' then (parseString rest).map fun (s, rest) => (.string s, rest)
      else if c = '[' then
        if rest.head? = some ']' then some (.array [], rest.tail)
        else (parseItems fuel rest).map fun (items, rest) => (.array items, rest)
      else if c = '\x7b' then
        if rest.head? = some '\x7d' then some (Json.ofMembers [], rest.tail)
        else (parseMembers fuel rest).map fun (members, rest) => (Json.ofMembers members, rest)
      else if c = 'n' then (("ull" : CppString).isPrefixOf? rest).map fun rest => (.null, rest)
      else if c = 't' then (("rue" : CppString).isPrefixOf? rest).map fun rest => (.bool true, rest)
      else if c = 'f' then (("alse" : CppString).isPrefixOf? rest).map fun rest => (.bool false, rest)
      else parseNumber (c :: rest)

/-- The items of an array, past the opening bracket or a comma. -/
def parseItems : Nat → CppString → Option (List Json × CppString)
  | 0, _ => none
  | fuel + 1, text =>
      match parseValue fuel text with
      | some (item, c :: rest) =>
          if c = ',' then (parseItems fuel rest).map fun (items, rest) => (item :: items, rest)
          else if c = ']' then some ([item], rest)
          else none
      | _ => none

/-- The members of an object, past the opening brace or a comma. -/
def parseMembers : Nat → CppString → Option (List (CppString × Json) × CppString)
  | 0, _ => none
  | _ + 1, [] => none
  | fuel + 1, quote :: text =>
      if quote = '"' then
        match parseString text with
        | some (key, colon :: text) =>
            if colon = ':' then
              match parseValue fuel text with
              | some (value, c :: rest) =>
                  if c = ',' then
                    (parseMembers fuel rest).map fun (members, rest) => ((key, value) :: members, rest)
                  else if c = '\x7d' then some ([(key, value)], rest)
                  else none
              | _ => none
            else none
        | _ => none
      else none

end

/-- `2 * text.length` is enough: a text that is read is shorter than that. -/
def parse (text : CppString) : Option Json :=
  match parseValue (2 * text.length) text with
  | some (j, []) => some j
  | _ => none

/-! ## What is read is canonical -/

theorem parseString_utf8 {text s rest : CppString} (read : parseString text = some (s, rest)) :
    CppString.isUtf8 s = true := by
  rw [parseString, Option.filter_eq_some_iff] at read
  exact read.2

theorem parseNumber_canonical {text rest : CppString} {j : Json}
    (read : parseNumber text = some (j, rest)) : j.Canonical Numeral := by
  rw [parseNumber] at read
  split at read
  next => cases read
  next some' =>
    cases read
    refine .number ⟨fun empty => some' (by rw [empty]; rfl), fun c mem => ?_⟩
    exact List.mem_takeWhile_imp mem

/-- By the fuel: a value, the items of an array and the members of an object. -/
theorem parse_canonical_of (fuel : Nat) :
    (∀ text j rest, parseValue fuel text = some (j, rest) → j.Canonical Numeral) ∧
    (∀ text items rest, parseItems fuel text = some (items, rest) →
      ∀ item ∈ items, item.Canonical Numeral) ∧
    ∀ text members rest, parseMembers fuel text = some (members, rest) →
      ∀ m ∈ members, CppString.isUtf8 m.1 = true ∧ m.2.Canonical Numeral := by
  induction fuel with
  | zero =>
      refine ⟨fun text j rest read => ?_, fun text items rest read => ?_,
        fun text members rest read => ?_⟩
      · simp [parseValue] at read
      · simp [parseItems] at read
      · simp [parseMembers] at read
  | succ fuel ih =>
      obtain ⟨values, itemLists, memberLists⟩ := ih
      refine ⟨fun text j rest read => ?_, fun text items rest read => ?_,
        fun text members rest read => ?_⟩
      · cases text with
        | nil => simp [parseValue] at read
        | cons c text =>
            rw [parseValue] at read
            split at read
            next =>
              obtain ⟨⟨s, rest'⟩, string, same⟩ := Option.map_eq_some_iff.mp read
              cases same
              exact .string (parseString_utf8 string)
            split at read
            next =>
              split at read
              · cases read
                exact .array fun item mem => by cases mem
              · obtain ⟨⟨items, rest'⟩, list, same⟩ := Option.map_eq_some_iff.mp read
                cases same
                exact .array (itemLists _ _ _ list)
            split at read
            next =>
              split at read
              · cases read
                exact Json.canonical_ofMembers fun m mem => by cases mem
              · obtain ⟨⟨members, rest'⟩, list, same⟩ := Option.map_eq_some_iff.mp read
                cases same
                exact Json.canonical_ofMembers (memberLists _ _ _ list)
            split at read
            next =>
              obtain ⟨rest', -, same⟩ := Option.map_eq_some_iff.mp read
              cases same
              exact .null
            split at read
            next =>
              obtain ⟨rest', -, same⟩ := Option.map_eq_some_iff.mp read
              cases same
              exact .bool true
            split at read
            next =>
              obtain ⟨rest', -, same⟩ := Option.map_eq_some_iff.mp read
              cases same
              exact .bool false
            next => exact parseNumber_canonical read
      · rw [parseItems] at read
        split at read
        next item c text' first =>
          have canonical : item.Canonical Numeral := values _ _ _ first
          split at read
          next =>
            obtain ⟨⟨items', rest'⟩, list, same⟩ := Option.map_eq_some_iff.mp read
            cases same
            intro item' mem
            rcases List.mem_cons.mp mem with rfl | mem
            · exact canonical
            · exact itemLists _ _ _ list item' mem
          next =>
          split at read
          next =>
            cases read
            intro item' mem
            rw [List.mem_singleton.mp mem]
            exact canonical
          next => cases read
        next => cases read
      · cases text with
        | nil => simp [parseMembers] at read
        | cons quote text =>
            rw [parseMembers] at read
            split at read
            next =>
              split at read
              next key colon text' string =>
                have utf8 := parseString_utf8 string
                split at read
                next =>
                  split at read
                  next value c text'' first =>
                    have canonical : value.Canonical Numeral := values _ _ _ first
                    split at read
                    next =>
                      obtain ⟨⟨members', rest'⟩, list, same⟩ := Option.map_eq_some_iff.mp read
                      cases same
                      intro m mem
                      rcases List.mem_cons.mp mem with rfl | mem
                      · exact ⟨utf8, canonical⟩
                      · exact memberLists _ _ _ list m mem
                    next =>
                    split at read
                    next =>
                      cases read
                      intro m mem
                      rw [List.mem_singleton.mp mem]
                      exact ⟨utf8, canonical⟩
                    next => cases read
                  next => cases read
                next => cases read
              next => cases read
            next => cases read

theorem parse_canonical {text : CppString} {j : Json} (read : parse text = some j) :
    j.Canonical Numeral := by
  rw [parse] at read
  split at read
  next j' value =>
    cases read
    exact (parse_canonical_of _).1 _ _ _ value
  next => cases read

/-! ## What is written is read -/

/-- A number ends here. -/
def Stops (rest : CppString) : Prop := ∀ c ∈ rest.head?, isNumeral c = false

theorem stops_cons {c : Char} {rest : CppString} (stop : isNumeral c = false) :
    Stops (c :: rest) := by
  intro d mem
  cases mem
  exact stop

theorem parseString_quote {s rest : CppString} (utf8 : CppString.isUtf8 s = true) :
    parseString (escape s ++ '"' :: rest) = some (s, rest) := by
  rw [parseString, unquote_escape, Option.filter_some, if_pos utf8]

theorem parseNumber_append {literal rest : CppString} (numeral : Numeral literal)
    (stops : Stops rest) : parseNumber (literal ++ rest) = some (.number literal, rest) := by
  have split' : (literal ++ rest).takeWhile isNumeral = literal ∧
      (literal ++ rest).dropWhile isNumeral = rest := by
    rw [List.takeWhile_append_of_pos numeral.2, List.dropWhile_append_of_pos numeral.2]
    cases rest with
    | nil => simp
    | cons c rest =>
        have stop : isNumeral c = false := stops c rfl
        simp [stop]
  rw [parseNumber, split'.1, split'.2, if_neg]
  rw [List.isEmpty_iff]
  exact numeral.1

/-- A value is read with enough fuel, whatever follows. -/
def Reads (j : Json) : Prop :=
  0 < (dump j).length ∧ (∀ c ∈ (dump j).head?, c ≠ ']' ∧ c ≠ '\x7d') ∧
    ∀ rest fuel, Stops rest → 2 * (dump j).length ≤ fuel →
      parseValue fuel (dump j ++ rest) = some (j, rest)

theorem parseItems_dump {items : List Json} (some' : items ≠ []) (each : ∀ item ∈ items, Reads item)
    {rest : CppString} {fuel : Nat} (enough : 2 * (dumpItems items).length < fuel) :
    parseItems fuel (dumpItems items ++ ']' :: rest) = some (items, rest) := by
  induction items generalizing fuel with
  | nil => exact absurd rfl some'
  | cons item items ih =>
      obtain ⟨-, -, first⟩ := each item List.mem_cons_self
      cases fuel with
      | zero => omega
      | succ fuel =>
          cases items with
          | nil =>
              rw [dumpItems] at enough ⊢
              rw [parseItems, first _ _ (stops_cons rfl) (by omega)]
              rfl
          | cons item' items =>
              rw [dumpItems, List.length_append, List.length_cons] at enough
              · have others : parseItems fuel (dumpItems (item' :: items) ++ ']' :: rest) =
                    some (item' :: items, rest) :=
                  ih (by simp) (fun i mem => each i (List.mem_cons_of_mem _ mem)) (by omega)
                rw [dumpItems, List.append_assoc, List.cons_append, parseItems,
                  first _ _ (stops_cons rfl) (by omega)]
                · simp only [if_true, others]
                  rfl
                · simp
              · simp

theorem parseMembers_dump {members : List (CppString × Json)} (some' : members ≠ [])
    (keys : ∀ m ∈ members, CppString.isUtf8 m.1 = true) (each : ∀ m ∈ members, Reads m.2)
    {rest : CppString} {fuel : Nat} (enough : 2 * (dumpMembers members).length < fuel) :
    parseMembers fuel (dumpMembers members ++ '\x7d' :: rest) = some (members, rest) := by
  induction members generalizing fuel with
  | nil => exact absurd rfl some'
  | cons m members ih =>
      obtain ⟨key, value⟩ := m
      have utf8 : CppString.isUtf8 key = true := keys _ List.mem_cons_self
      obtain ⟨-, -, first⟩ : Reads value := each _ List.mem_cons_self
      cases fuel with
      | zero => omega
      | succ fuel =>
          cases members with
          | nil =>
              rw [dumpMembers, quote] at enough ⊢
              simp only [List.length_append, List.length_cons] at enough
              have last : parseValue fuel (dump value ++ '\x7d' :: rest) =
                  some (value, '\x7d' :: rest) := first _ _ (stops_cons rfl) (by omega)
              simp only [List.cons_append, List.append_assoc, List.nil_append, parseMembers,
                if_true, parseString_quote utf8, last]
              rfl
          | cons m' members =>
              rw [dumpMembers, quote] at enough ⊢
              · simp only [List.length_append, List.length_cons] at enough
                have others : parseMembers fuel (dumpMembers (m' :: members) ++ '\x7d' :: rest) =
                    some (m' :: members, rest) :=
                  ih (by simp) (fun m mem => keys m (List.mem_cons_of_mem _ mem))
                    (fun m mem => each m (List.mem_cons_of_mem _ mem)) (by omega)
                have next : ∀ more, parseValue fuel (dump value ++ ',' :: more) =
                    some (value, ',' :: more) := fun more =>
                  first _ _ (stops_cons rfl) (by omega)
                simp only [List.cons_append, List.append_assoc, List.nil_append, parseMembers,
                  if_true, parseString_quote utf8, next, others]
                rfl
              · simp
              · simp

theorem reads_string {s : CppString} (utf8 : CppString.isUtf8 s = true) : Reads (.string s) := by
  refine ⟨by simp [dump, quote], fun c mem => ?_, fun rest fuel _ enough => ?_⟩
  · rw [dump, quote] at mem
    cases mem
    decide
  · cases fuel with
    | zero =>
        rw [dump, quote] at enough
        simp at enough
    | succ fuel =>
        rw [dump, quote, List.cons_append, List.append_assoc, parseValue]
        simp only [if_true, List.singleton_append, parseString_quote utf8, Option.map_some]

theorem reads_number {literal : CppString} (numeral : Numeral literal) :
    Reads (.number literal) := by
  obtain ⟨nonempty, all⟩ := numeral
  cases literal with
  | nil => exact absurd rfl nonempty
  | cons c literal =>
      have first : isNumeral c = true := all c List.mem_cons_self
      have plain : c ≠ '"' ∧ c ≠ '[' ∧ c ≠ '\x7b' ∧ c ≠ 'n' ∧ c ≠ 't' ∧ c ≠ 'f' ∧ c ≠ ']' ∧
          c ≠ '\x7d' := by
        refine ⟨?_, ?_, ?_, ?_, ?_, ?_, ?_, ?_⟩
        all_goals
          rintro rfl
          cases first
      obtain ⟨notQuote, notOpen, notBrace, notN, notT, notF, notClose, notEnd⟩ := plain
      refine ⟨by simp [dump], fun d mem => ?_, fun rest fuel stops enough => ?_⟩
      · cases mem
        exact ⟨notClose, notEnd⟩
      · cases fuel with
        | zero => simp [dump] at enough
        | succ fuel =>
            have number := parseNumber_append ⟨nonempty, all⟩ stops
            rw [dump, List.cons_append, parseValue, if_neg notQuote, if_neg notOpen,
              if_neg notBrace, if_neg notN, if_neg notT, if_neg notF]
            exact number

theorem reads_array {items : List Json} (each : ∀ item ∈ items, Reads item) :
    Reads (.array items) := by
  refine ⟨by simp [dump], fun c mem => ?_, fun rest fuel _ enough => ?_⟩
  · rw [dump] at mem
    cases mem
    decide
  · rw [dump, List.length_cons, List.length_append, List.length_singleton] at enough
    cases fuel with
    | zero => omega
    | succ fuel =>
        rw [dump, List.cons_append, List.append_assoc, parseValue, List.singleton_append,
          if_neg (by decide), if_pos rfl]
        cases items with
        | nil => rfl
        | cons item items =>
            have opens : ∀ c ∈ (dumpItems (item :: items) ++ ']' :: rest).head?, c ≠ ']' := by
              obtain ⟨long, head, -⟩ := each item List.mem_cons_self
              have starts : ∃ more, dumpItems (item :: items) = dump item ++ more := by
                cases items with
                | nil => exact ⟨[], by rw [dumpItems, List.append_nil]⟩
                | cons item' items =>
                    refine ⟨',' :: dumpItems (item' :: items), ?_⟩
                    rw [dumpItems]
                    simp
              obtain ⟨more, starts⟩ := starts
              intro c mem
              rw [starts] at mem
              cases text : dump item with
              | nil =>
                  rw [text] at long
                  exact absurd long (by simp)
              | cons d text' =>
                  rw [text] at mem head
                  exact (head c mem).1
            have notClose : (dumpItems (item :: items) ++ ']' :: rest).head? ≠ some ']' :=
              fun closes => opens _ closes rfl
            rw [if_neg notClose, parseItems_dump (by simp) each (by omega)]
            rfl

theorem reads_object {members : List (CppString × Json)} (ordered : Json.Ordered members)
    (keys : ∀ m ∈ members, CppString.isUtf8 m.1 = true) (each : ∀ m ∈ members, Reads m.2) :
    Reads (.object members) := by
  refine ⟨by simp [dump], fun c mem => ?_, fun rest fuel _ enough => ?_⟩
  · rw [dump] at mem
    cases mem
    decide
  · rw [dump, List.length_cons, List.length_append, List.length_singleton] at enough
    cases fuel with
    | zero => omega
    | succ fuel =>
        rw [dump, List.cons_append, List.append_assoc, parseValue, List.singleton_append,
          if_neg (by decide), if_neg (by decide), if_pos rfl, ← Json.ofMembers_ordered ordered]
        cases members with
        | nil => rfl
        | cons m members =>
            have opens : (dumpMembers (m :: members) ++ '\x7d' :: rest).head? ≠ some '\x7d' := by
              cases members with
              | nil =>
                  rw [dumpMembers, quote]
                  exact fun wrong => by cases wrong
              | cons m' members =>
                  rw [dumpMembers, quote]
                  · exact fun wrong => by cases wrong
                  · simp
            rw [if_neg opens, parseMembers_dump (by simp) keys each (by omega)]
            rfl

theorem opens_cons {c d : Char} {text : CppString} (mem : d ∈ (c :: text).head?)
    (open' : c ≠ ']' ∧ c ≠ '\x7d') : d ≠ ']' ∧ d ≠ '\x7d' := by
  cases mem
  exact open'

theorem reads {j : Json} (canonical : j.Canonical Numeral) : Reads j := by
  induction canonical with
  | null =>
      refine ⟨by decide, fun c mem => opens_cons mem (by decide), fun rest fuel _ enough => ?_⟩
      cases fuel with
      | zero => cases enough
      | succ fuel => rfl
  | bool b =>
      cases b with
      | true =>
          refine ⟨by decide, fun c mem => opens_cons mem (by decide), fun rest fuel _ enough => ?_⟩
          cases fuel with
          | zero => cases enough
          | succ fuel => rfl
      | false =>
          refine ⟨by decide, fun c mem => opens_cons mem (by decide), fun rest fuel _ enough => ?_⟩
          cases fuel with
          | zero => cases enough
          | succ fuel => rfl
  | number numeral => exact reads_number numeral
  | string utf8 => exact reads_string utf8
  | array _ ih => exact reads_array ih
  | object ordered keys _ ih => exact reads_object ordered keys ih

theorem parse_dump {j : Json} (canonical : j.Canonical Numeral) : parse (dump j) = some j := by
  obtain ⟨-, -, read⟩ := reads canonical
  have all := read [] (2 * (dump j).length) (fun c mem => by cases mem) (Nat.le_refl _)
  rw [List.append_nil] at all
  rw [parse, all]

theorem numeral_ofInt (n : Int) : Numeral (CppString.ofInt n) := by
  have digits : ∀ n : Nat, ∀ c ∈ CppString.ofNat n, isNumeral c = true := by
    intro n c mem
    rw [isNumeral, CppString.isDigit_of_mem_ofNat mem]
    rfl
  cases n with
  | ofNat n => exact ⟨CppString.ofNat_ne_nil n, digits n⟩
  | negSucc n =>
      refine ⟨by simp [CppString.ofInt], fun c mem => ?_⟩
      rcases List.mem_cons.mp mem with rfl | mem
      · rfl
      · exact digits (n + 1) c mem

end TextJson

/-- The codec as the library. -/
@[reducible] def textJson : JsonText where
  dump := TableJson.dump
  parse := TextJson.parse
  Numeral := TextJson.Numeral
  numeral_ofInt n _ _ := TextJson.numeral_ofInt n
  parse_nil := rfl
  parse_canonical := TextJson.parse_canonical
  parse_dump := TextJson.parse_dump

end DiskManager
