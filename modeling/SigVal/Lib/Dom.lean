import Mathlib.Data.List.Basic

/-!
# Document trees

The part of the W3C document object model that XML processing needs: elements
with a namespace, a local name, attributes and children, and text. Searches
return matches in document order, as `getElementsByTagNameNS` does.
-/

namespace SigVal.Dom

/-- A node of an XML document. Namespace declarations are not among the attributes. -/
inductive Node where
  | element (ns name : String) (attrs : List (String × String)) (children : List Node)
  | text (value : String)

namespace Node

/-- The element has this namespace and local name. -/
def hasName (ns name : String) : Node → Bool
  | .element ns' name' _ _ => ns' == ns && name' == name
  | .text _ => false

/-- `getNamespaceURI`, the empty text for an absent namespace. -/
def namespaceURI : Node → String
  | .element ns _ _ _ => ns
  | .text _ => ""

/-- `getLocalName`. -/
def localName : Node → String
  | .element _ name _ _ => name
  | .text _ => ""

/-- `getAttributes`, by qualified name. -/
def attributes : Node → List (String × String)
  | .element _ _ attrs _ => attrs
  | .text _ => []

/-- `getAttribute`, the empty text for an absent one. -/
def getAttribute (e : Node) (name : String) : String := (e.attributes.lookup name).getD ""

/-- `getChildNodes`. -/
def childNodes : Node → List Node
  | .element _ _ _ children => children
  | .text _ => []

def isElement : Node → Bool
  | .element .. => true
  | .text _ => false

/-- The children that are elements. -/
def childElements (e : Node) : List Node := e.childNodes.filter isElement

mutual
/-- All nodes below a node, in document order. -/
def descendants : Node → List Node
  | .element _ _ _ children => forest children
  | .text _ => []

/-- The nodes of a list of trees, roots included, in document order. -/
def forest : List Node → List Node
  | [] => []
  | t :: ts => t :: (descendants t ++ forest ts)
end

/-- `getElementsByTagNameNS` on an element: the element itself is not a match. -/
def getElementsByTagNameNS (e : Node) (ns name : String) : List Node :=
  e.descendants.filter (hasName ns name)

/-- The elements with a name in a list of trees, roots included, in document order. -/
def named (ns name : String) (ts : List Node) : List Node := (forest ts).filter (hasName ns name)

mutual
/-- `getTextContent`: the concatenated text below a node. -/
def textContent : Node → String
  | .element _ _ _ children => forestText children
  | .text value => value

def forestText : List Node → String
  | [] => ""
  | t :: ts => textContent t ++ forestText ts
end

/-! ## Searches -/

variable {ns name : String} {s t : List Node} {e : Node}

theorem forest_append : forest (s ++ t) = forest s ++ forest t := by
  induction s with
  | nil => rfl
  | cons e s ih => rw [List.cons_append, forest, forest, ih, List.cons_append, List.append_assoc]

theorem named_nil : named ns name [] = [] := rfl

theorem named_append : named ns name (s ++ t) = named ns name s ++ named ns name t := by
  rw [named, forest_append, List.filter_append]
  rfl

theorem getElementsByTagNameNS_eq :
    e.getElementsByTagNameNS ns name = named ns name e.childNodes := by
  cases e with
  | element ns' name' attrs children =>
      rw [getElementsByTagNameNS, descendants]
      rfl
  | text value =>
      rw [getElementsByTagNameNS, descendants]
      rfl

/-- A root first, and then what is below it. -/
theorem named_cons : named ns name (e :: t) =
    (if e.hasName ns name = true then [e] else []) ++
      (e.getElementsByTagNameNS ns name ++ named ns name t) := by
  rw [named, forest]
  split
  · rename_i hname
    rw [List.filter_cons_of_pos hname, List.filter_append]
    rfl
  · rename_i hname
    rw [List.filter_cons_of_neg hname, List.filter_append]
    rfl

end Node

end SigVal.Dom
