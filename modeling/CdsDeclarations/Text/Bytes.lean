/-!
# Characters by their bytes

How many bytes a text takes in UTF-8, and parts of a text cut by a number of bytes. A cut inside a
character goes behind it.
-/

namespace CdsDeclarations

def byteLength : List Char → Nat
  | [] => 0
  | c :: rest => c.utf8Size + byteLength rest

def takeBytes (count : Nat) : List Char → List Char
  | [] => []
  | c :: rest => if count = 0 then [] else c :: takeBytes (count - c.utf8Size) rest

def dropBytes (count : Nat) : List Char → List Char
  | [] => []
  | c :: rest => if count = 0 then c :: rest else dropBytes (count - c.utf8Size) rest

theorem byteLength_append (front rest : List Char) :
    byteLength (front ++ rest) = byteLength front + byteLength rest := by
  induction front with
  | nil => simp [byteLength]
  | cons c front ih => simp [byteLength, ih, Nat.add_assoc]

theorem takeBytes_byteLength_append (front rest : List Char) :
    takeBytes (byteLength front) (front ++ rest) = front := by
  induction front with
  | nil => cases rest <;> simp [byteLength, takeBytes]
  | cons c front ih =>
    have hc := Nat.ne_of_gt c.utf8Size_pos
    simp [byteLength, takeBytes, hc, ih]

theorem dropBytes_byteLength_append (front rest : List Char) :
    dropBytes (byteLength front) (front ++ rest) = rest := by
  induction front with
  | nil => cases rest <;> simp [byteLength, dropBytes]
  | cons c front ih =>
    have hc := Nat.ne_of_gt c.utf8Size_pos
    simp [byteLength, dropBytes, hc, ih]

end CdsDeclarations
