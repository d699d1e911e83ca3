import Mathlib.Data.Int.Notation

namespace AdkGateway.Foundation

abbrev DateTime := ℤ

namespace DateTime

def seconds (n : ℤ) : DateTime := n * 1000000000

def minutes (n : ℤ) : DateTime := seconds (n * 60)

def hours (n : ℤ) : DateTime := minutes (n * 60)

end DateTime

end AdkGateway.Foundation
