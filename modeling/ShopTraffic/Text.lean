/-!
Small letters and columns. Letters and blanks outside ASCII are left alone.
-/

namespace ShopTraffic.Text

def lowered (s : String) : String := String.ofList (s.toList.map Char.toLower)

def blanks (count : Nat) : String := String.ofList (List.replicate count ' ')

def padded (width : Nat) (s : String) : String := s ++ blanks (width - s.length)

def indented (width : Nat) (s : String) : String := blanks (width - s.length) ++ s

end ShopTraffic.Text
