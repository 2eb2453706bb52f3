import NVSim.Library.TracedArray
import NVSim.Library.While
import NVSim.Library.RoundedLog
import NVSim.Library.Maximum
import NVSim.Model.Typedef
import NVSim.Model.Mat
import NVSim.Model.MatInts
import NVSim.Model.Bank
import NVSim.Model.BankWithHtree
import NVSim.Model.BankWithoutHtree
import NVSim.Htree.Tree
import NVSim.Htree.Routing
import NVSim.Htree.Wires
import NVSim.Htree.WireLengths
import NVSim.Organisation.Agreement
import NVSim.Organisation.Capacity
import NVSim.Model.BankInts
import NVSim.Htree.RoutingInts
import NVSim.Organisation.AgreementInts
import NVSim.Organisation.RowPredecoder
import NVSim.Library.ArgMin
import NVSim.Library.LastWrite
import NVSim.Model.Result
import NVSim.Model.InputParameter
import NVSim.Model.Evaluation
import NVSim.Model.Search
import NVSim.Search.BestResult
import NVSim.Search.Refinement
import NVSim.Search.Constraints
import NVSim.Search.Enumeration
import NVSim.Search.DataCandidates
import NVSim.Search.DataCapacity
import NVSim.Search.TagCapacity
import NVSim.Search.MatCalls
import NVSim.Search.DataCapacityInts
import NVSim.Model.Exploration
import NVSim.Search.Exploration
import NVSim.Search.Reread
import NVSim.Search.TagTrace
import NVSim.Model.Circuit
import NVSim.Circuit.WriteEnergy
import NVSim.Model.Decoder
import NVSim.Model.PredecodeBlock
import NVSim.Model.Periphery
import NVSim.Model.SubArrayCircuit
import NVSim.Model.SubArrayEvaluation
import NVSim.Circuit.WriteSymmetry
import NVSim.Model.BankCircuit
import NVSim.Circuit.Validity
import NVSim.Circuit.Sensing
import NVSim.Library.Rounding
import NVSim.Model.SensingRounding
import NVSim.Circuit.SensingRounding
import NVSim.Circuit.Predecoder
import NVSim.Library.Loop
import NVSim.Library.GreedyScan
import NVSim.Library.Tradeoff
import NVSim.Library.CheckedArray
import NVSim.Model.BankBus
import NVSim.Model.Comparator
import NVSim.Model.Formula
import NVSim.Model.Repeater
import NVSim.Model.InverterChain
import NVSim.Circuit.ReadEnergy
import NVSim.Circuit.Folding
import NVSim.Circuit.BusLeakage
import NVSim.Circuit.SenseAmpLayout
import NVSim.Circuit.RepeaterSearch
import NVSim.Circuit.OptimalRepeater
import NVSim.Circuit.InverterChain
import NVSim.Circuit.DriverSizing
import NVSim.Search.TagComparator
import NVSim.Library.Blend
import NVSim.Model.Technology
import NVSim.Model.TechnologyTables
import NVSim.Circuit.Interpolation
import NVSim.Model.Scanf
import NVSim.Input.Reading
import NVSim.Library.Footprint
import NVSim.Model.CellFile
import NVSim.Input.CellFile
import NVSim.Model.LowSwing
import NVSim.Model.WireLengths
import NVSim.Library.LoopNest
import NVSim.Model.EnumerationInts
import NVSim.Search.EnumerationInts
import NVSim.Search.Termination
import NVSim.Model.SubArrayReads
import NVSim.Circuit.StaleMemory
import NVSim.Library.Dividing
import NVSim.Library.Numerals
import NVSim.Model.PageDivision
import NVSim.Circuit.PageDivision
import NVSim.Circuit.LowSwing
import NVSim.Library.IndexLoop
import NVSim.Model.WireObject
import NVSim.Circuit.WireTable
import NVSim.Model.MatEvaluation
import NVSim.Model.HtreeEvaluation
import NVSim.Htree.Evaluation
import NVSim.Htree.PlainWires
import NVSim.Model.Report
import NVSim.Circuit.AreaEfficiency
import NVSim.Model.BankEvaluation
import NVSim.Model.CircuitModels
import NVSim.Search.CircuitModels
import NVSim.Library.TwoRuns
import NVSim.Circuit.Erasure
import NVSim.Model.Main
import NVSim.Search.StaleMemory
import NVSim.Search.TagMemory
import NVSim.Search.Designs
import NVSim.Search.Main
import NVSim.Search.Relaxation
import NVSim.Model.ConfigFile
import NVSim.Input.ConfigFile
