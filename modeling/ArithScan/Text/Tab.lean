import ArithScan.Text.Offset

set_option autoImplicit false

namespace ArithScan.Text

-- A tab is as wide as four spaces, wherever it stands.
def tabWidth : Nat := 4

def expandTab (c : Char) : Text :=
  if c = '\t' then List.replicate tabWidth ' ' else [c]

def expandTabs (text : Text) : Text :=
  text.flatMap expandTab

def columns (text : Text) : Nat :=
  text.expandTabs.length

@[simp] theorem columns_nil : columns [] = 0 := rfl

@[simp] theorem columns_cons (c : Char) (rest : Text) :
    columns (c :: rest) = (if c = '\t' then tabWidth else 1) + columns rest := by
  unfold columns expandTabs expandTab
  rw [List.flatMap_cons, List.length_append]
  split <;> simp

@[simp] theorem expand_tabs_nil : expandTabs [] = [] := rfl

@[simp] theorem expand_tabs_append (left right : Text) :
    expandTabs (left ++ right) = expandTabs left ++ expandTabs right :=
  List.flatMap_append

@[simp] theorem expand_tabs_cons (c : Char) (rest : Text) : expandTabs (c :: rest) = expandTab c ++ expandTabs rest :=
  List.flatMap_cons

@[simp] theorem columns_append (left right : Text) : columns (left ++ right) = columns left + columns right := by
  rw [columns, expand_tabs_append, List.length_append]
  rfl

end ArithScan.Text
