/-!
# Free names

A name that is taken gets the least number that makes it free. Names are compared by a key, so that
names which differ only in what the key leaves out count as the same.
-/

namespace CdsDeclarations

/-- A name with a number behind it. -/
def numbered (name : String) (number : Nat) : String :=
  name ++ "_" ++ toString number

/-- The first free name among so many numbered ones, counted from a number on. -/
def firstFree (key : String → String) (taken : List String) (name : String) :
    Nat → Nat → String
  | 0, _ => name
  | steps + 1, number =>
    if taken.contains (key (numbered name number)) then
      firstFree key taken name steps (number + 1)
    else numbered name number

/-- The name itself if it is free, else the first free numbered one. As many numbers are tried as
names are taken; one of them is free, since the name itself is already among those taken. -/
def freeName (key : String → String) (taken : List String) (name : String) : String :=
  if taken.contains (key name) then firstFree key taken name taken.length 1 else name

end CdsDeclarations
