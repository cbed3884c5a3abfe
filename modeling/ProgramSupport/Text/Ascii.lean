/-!
# ASCII bytes

The bytes that have a meaning of their own in numerals and lines, and the class of spaces.
-/

namespace ProgramSupport.Ascii

/-- The byte that ends a line. -/
def newline : UInt8 := 10

def plus : UInt8 := 43

def minus : UInt8 := 45

def point : UInt8 := 46

/-- The byte of the digit zero. -/
def zero : UInt8 := 48

/-- Space, tab, newline, form feed and carriage return; the vertical tab is none of them. -/
def isSpace (b : UInt8) : Bool := b == 32 || b == 9 || b == newline || b == 12 || b == 13

end ProgramSupport.Ascii
