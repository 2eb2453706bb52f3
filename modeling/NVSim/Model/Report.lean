import NVSim.Model.HtreeEvaluation

/-!
# What is reported of a result

The area efficiencies that `Result::print` shows of a bank, of a mat and of a subarray.
-/

namespace NVSim

variable {K : Type} [Field K] [LinearOrder K]

/-- The area of the cells of a bank, as it is reported. -/
def Globals.cellsArea (g : Globals K) (b : Bank) : K :=
  g.cell.area * g.tech.featureSize * g.tech.featureSize * b.capacity

namespace HtreeObject

variable (g : Globals K) (o : HtreeObject K)

/-- `Area Efficiency`, in percent. -/
def areaEfficiency : K := g.cellsArea o.bank.toBank / o.area * 100

/-- The percentage after `Mat Area`. -/
def matEfficiency : K :=
  g.cellsArea o.bank.toBank / o.bank.numRowMat / o.bank.numColumnMat / o.mat.area * 100

/-- The percentage after `Subarray Area`. -/
def subarrayEfficiency : K :=
  g.cellsArea o.bank.toBank / o.bank.numRowMat / o.bank.numColumnMat / o.bank.numRowSubarray /
    o.bank.numColumnSubarray / o.mat.subarray.area * 100

end HtreeObject

end NVSim
