import Mathlib.Algebra.GroupWithZero.Nat
import Mathlib.Data.Nat.Cast.Defs

/-!
# Numerals

A numeral of a ring carries an instance that it is at least two, and a numeral of `Fin n` one
that `n` is not zero.  The general instances take a proof, which every definition would make
for itself.  For the numerals that occur in many definitions their instances have names, so
that the definitions agree on them.
-/

namespace NVSim

scoped instance atLeastTwo_2 : Nat.AtLeastTwo 2 := inferInstance
scoped instance atLeastTwo_3 : Nat.AtLeastTwo 3 := inferInstance
scoped instance atLeastTwo_4 : Nat.AtLeastTwo 4 := inferInstance
scoped instance atLeastTwo_5 : Nat.AtLeastTwo 5 := inferInstance
scoped instance atLeastTwo_6 : Nat.AtLeastTwo 6 := inferInstance
scoped instance atLeastTwo_8 : Nat.AtLeastTwo 8 := inferInstance
scoped instance atLeastTwo_10 : Nat.AtLeastTwo 10 := inferInstance
scoped instance atLeastTwo_13 : Nat.AtLeastTwo 13 := inferInstance
scoped instance atLeastTwo_20 : Nat.AtLeastTwo 20 := inferInstance
scoped instance atLeastTwo_22 : Nat.AtLeastTwo 22 := inferInstance
scoped instance atLeastTwo_25 : Nat.AtLeastTwo 25 := inferInstance
scoped instance atLeastTwo_30 : Nat.AtLeastTwo 30 := inferInstance
scoped instance atLeastTwo_32 : Nat.AtLeastTwo 32 := inferInstance
scoped instance atLeastTwo_40 : Nat.AtLeastTwo 40 := inferInstance
scoped instance atLeastTwo_60 : Nat.AtLeastTwo 60 := inferInstance
scoped instance atLeastTwo_100 : Nat.AtLeastTwo 100 := inferInstance

scoped instance neZero_11 : NeZero 11 := inferInstance

end NVSim
