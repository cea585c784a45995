import Mathlib.Data.List.Basic

/-!
# JSON values

A JSON value is a text, an array, an object or a scalar. Numbers, booleans and
`null` are the scalars: no program here looks into them, so they are a type of
their own choice. An object is the list of its members.

The second part is the text of a value and the value of a text. Reading takes as much
fuel as the text is long, and a rendered value is read back.
-/

namespace SigVal

inductive Json (Scalar : Type) where
  | scalar (value : Scalar)
  | string (s : String)
  | array (items : List (Json Scalar))
  | object (members : List (String × Json Scalar))

namespace Json

variable {Scalar : Type}

/-- An array of texts. -/
def strings (texts : List String) : Json Scalar := .array (texts.map .string)

/-- The texts among the items of an array. -/
def textsOf : Json Scalar → List String
  | .array items => items.filterMap fun item =>
      match item with
      | .string s => some s
      | _ => none
  | _ => []

@[simp] theorem textsOf_strings (texts : List String) :
    textsOf (strings texts : Json Scalar) = texts := by
  show (texts.map string).filterMap _ = texts
  rw [List.filterMap_map]
  exact List.filterMap_some

/-- The value of a member; of several with the name the last one counts. -/
def member (name : String) : Json Scalar → Option (Json Scalar)
  | .object members => members.reverse.lookup name
  | _ => none

def isObject : Json Scalar → Bool
  | .object _ => true
  | _ => false

/-! ## JSON text

Without white space, and with `null` for the only scalar. -/

/-- The rest of a quoted text, up to the closing quote. -/
def renderChars : List Char → List Char
  | [] => ['"']
  | c :: cs => if c = '"' ∨ c = '\\' then '\\' :: c :: renderChars cs else c :: renderChars cs

def renderText (s : String) : List Char := '"' :: renderChars s.toList

mutual

def render : Json Unit → List Char
  | .scalar () => ['n', 'u', 'l', 'l']
  | .string s => renderText s
  | .array items => '[' :: renderItems items
  | .object members => '{' :: renderMembers members

/-- The rest of an array, up to the closing bracket. -/
def renderItems : List (Json Unit) → List Char
  | [] => [']']
  | [item] => render item ++ [']']
  | item :: next :: more => render item ++ ',' :: renderItems (next :: more)

def renderMembers : List (String × Json Unit) → List Char
  | [] => ['}']
  | [(name, value)] => renderText name ++ ':' :: (render value ++ ['}'])
  | (name, value) :: next :: more =>
      renderText name ++ ':' :: (render value ++ ',' :: renderMembers (next :: more))

end

/-! ### Reading -/

/-- A quoted text, from behind the opening quote. -/
def readChars : List Char → Option (List Char × List Char)
  | [] => none
  | '"' :: cs => some ([], cs)
  | '\\' :: c :: cs => (readChars cs).map fun r => (c :: r.1, r.2)
  | c :: cs => (readChars cs).map fun r => (c :: r.1, r.2)

mutual

/-- A value and what comes behind it. -/
def readValue : Nat → List Char → Option (Json Unit × List Char)
  | n + 1, c :: cs =>
      if c = '"' then (readChars cs).map fun r => (.string (String.ofList r.1), r.2)
      else if c = '[' then
        if cs.head? = some ']' then some (.array [], cs.tail)
        else (readItems n cs).map fun r => (.array r.1, r.2)
      else if c = '{' then
        if cs.head? = some '}' then some (.object [], cs.tail)
        else (readMembers n cs).map fun r => (.object r.1, r.2)
      else if c :: cs.take 3 = ['n', 'u', 'l', 'l'] then some (.scalar (), cs.drop 3)
      else none
  | _, _ => none

def readItems : Nat → List Char → Option (List (Json Unit) × List Char)
  | n + 1, cs => do
      let (item, cs) ← readValue n cs
      match cs with
      | ',' :: cs => do
          let (items, cs) ← readItems n cs
          some (item :: items, cs)
      | ']' :: cs => some ([item], cs)
      | _ => none
  | _, _ => none

def readMembers : Nat → List Char → Option (List (String × Json Unit) × List Char)
  | n + 1, '"' :: cs => do
      let (name, cs) ← readChars cs
      match cs with
      | ':' :: cs => do
          let (value, cs) ← readValue n cs
          match cs with
          | ',' :: cs => do
              let (members, cs) ← readMembers n cs
              some ((String.ofList name, value) :: members, cs)
          | '}' :: cs => some ([(String.ofList name, value)], cs)
          | _ => none
      | _ => none
  | _, _ => none

end

/-- The value of a whole text. -/
def read (text : List Char) : Option (Json Unit) :=
  match readValue text.length text with
  | some (value, []) => some value
  | _ => none

/-! ### What was rendered is read -/

theorem readChars_render (cs rest : List Char) :
    readChars (renderChars cs ++ rest) = some (cs, rest) := by
  induction cs with
  | nil => rfl
  | cons c cs ih =>
      by_cases hquote : c = '"'
      · subst hquote
        simp [renderChars, readChars, ih]
      · by_cases hslash : c = '\\'
        · subst hslash
          simp [renderChars, readChars, ih]
        · simp [renderChars, readChars, hquote, hslash, ih]

/-- The first character of a value tells what it is; none is a closing bracket. -/
theorem render_head (value : Json Unit) (rest : List Char) :
    (render value ++ rest).head? ≠ some ']' := by
  cases value with
  | scalar u => simp [render]
  | string s => simp [render, renderText]
  | array items => simp [render]
  | object members => simp [render]

mutual

theorem readValue_render (value : Json Unit) (n : Nat) (rest : List Char)
    (hn : (render value).length ≤ n) : readValue n (render value ++ rest) = some (value, rest) := by
  match value, n, hn with
  | .scalar (), n + 1, _ => simp [render, readValue]
  | .string s, n + 1, _ => simp [render, renderText, readValue, readChars_render]
  | .array [], n + 1, _ => simp [render, renderItems, readValue]
  | .array (item :: items), n + 1, hn =>
      have hitems := readItems_render item items n rest (by simpa [render] using hn)
      have hhead : (renderItems (item :: items) ++ rest).head? ≠ some ']' := by
        cases items with
        | nil => simpa only [renderItems, List.append_assoc] using render_head item _
        | cons next more => simpa only [renderItems, List.append_assoc] using render_head item _
      simp only [render, List.cons_append, readValue]
      rw [if_neg (by decide), if_pos trivial, if_neg hhead, hitems]
      rfl
  | .object [], n + 1, _ => simp [render, renderMembers, readValue]
  | .object (member :: members), n + 1, hn =>
      have hmembers := readMembers_render member members n rest (by simpa [render] using hn)
      have hhead : (renderMembers (member :: members) ++ rest).head? ≠ some '}' := by
        cases members with
        | nil => simp [renderMembers, renderText]
        | cons next more => simp [renderMembers, renderText]
      simp only [render, List.cons_append, readValue]
      rw [if_neg (by decide), if_neg (by decide), if_pos trivial, if_neg hhead, hmembers]
      rfl

theorem readItems_render (item : Json Unit) (items : List (Json Unit)) (n : Nat)
    (rest : List Char) (hn : (renderItems (item :: items)).length ≤ n) :
    readItems n (renderItems (item :: items) ++ rest) = some (item :: items, rest) := by
  match items, n, hn with
  | [], 0, hn => simp [renderItems] at hn
  | _ :: _, 0, hn => simp [renderItems] at hn
  | [], n + 1, hn =>
      have hitem := readValue_render item n (']' :: rest) (by simpa [renderItems] using hn)
      simp [renderItems, readItems, hitem]
  | next :: more, n + 1, hn =>
      have hlength : (render item).length + (renderItems (next :: more)).length ≤ n := by
        simp only [renderItems, List.length_append, List.length_cons] at hn
        omega
      have hitem := readValue_render item n (',' :: (renderItems (next :: more) ++ rest))
        (by omega)
      have hmore := readItems_render next more n rest (by omega)
      simp [renderItems, readItems, hitem, hmore]

theorem readMembers_render (member : String × Json Unit) (members : List (String × Json Unit))
    (n : Nat) (rest : List Char) (hn : (renderMembers (member :: members)).length ≤ n) :
    readMembers n (renderMembers (member :: members) ++ rest) = some (member :: members, rest) := by
  match member, members, n, hn with
  | _, [], 0, hn => simp [renderMembers] at hn
  | _, _ :: _, 0, hn => simp [renderMembers] at hn
  | (name, value), [], n + 1, hn =>
      have hlength : (render value).length ≤ n := by
        simp only [renderMembers, List.length_append, List.length_cons] at hn
        omega
      have hvalue := readValue_render value n ('}' :: rest) hlength
      simp [renderMembers, renderText, readMembers, readChars_render, hvalue]
  | (name, value), next :: more, n + 1, hn =>
      have hlength : (render value).length + (renderMembers (next :: more)).length ≤ n := by
        simp only [renderMembers, List.length_append, List.length_cons] at hn
        omega
      have hvalue := readValue_render value n (',' :: (renderMembers (next :: more) ++ rest))
        (by omega)
      have hmore := readMembers_render next more n rest (by omega)
      simp [renderMembers, renderText, readMembers, readChars_render, hvalue, hmore]

end

/-- **Reading back.** -/
theorem read_render (value : Json Unit) : read (render value) = some value := by
  have h := readValue_render value (render value).length [] (Nat.le_refl _)
  rw [List.append_nil] at h
  unfold read
  rw [h]

end Json

end SigVal
