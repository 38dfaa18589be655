import DiracRucioPolicy.ForStd.PosixPath
import DiracRucioPolicy.Spec.Identifiers
import DiracRucioPolicy.Native.Algorithms
import DiracRucioPolicy.Spec.LfnScope
import DiracRucioPolicy.Spec.ScopeNameUrl
import DiracRucioPolicy.Spec.ReadSchemas
import DiracRucioPolicy.Spec.PhysicalPath
import DiracRucioPolicy.Native.Permission
import DiracRucioPolicy.ForStd.Except
import DiracRucioPolicy.Spec.Grants
import DiracRucioPolicy.Spec.ScopeIsolation
import DiracRucioPolicy.Spec.RuleCreation
import DiracRucioPolicy.Spec.Shapes
import DiracRucioPolicy.Spec.Promotion
import DiracRucioPolicy.ForStd.Run
import DiracRucioPolicy.Spec.NonEscalation
import DiracRucioPolicy.Spec.Validation
import DiracRucioPolicy.Spec.LfnConstruction
import DiracRucioPolicy.ForStd.SchemaRefinement
import DiracRucioPolicy.Spec.SchemaInclusion
import DiracRucioPolicy.Spec.CountryAdmins
import DiracRucioPolicy.Spec.Returns
import DiracRucioPolicy.Spec.BulkRequests
import DiracRucioPolicy.Native.Payload
import DiracRucioPolicy.Spec.PayloadSafety
import DiracRucioPolicy.Spec.Grammars
import DiracRucioPolicy.Spec.Footprint
import DiracRucioPolicy.Spec.Stability
import DiracRucioPolicy.ForStd.Requirement
import DiracRucioPolicy.Spec.Roles
import DiracRucioPolicy.ForStd.Script
import DiracRucioPolicy.Native.DevSetup
import DiracRucioPolicy.Spec.DevSetup
import DiracRucioPolicy.Spec.DevSessions
import DiracRucioPolicy.Native.Polling
import DiracRucioPolicy.Spec.Polling
import DiracRucioPolicy.Spec.Namespace
import DiracRucioPolicy.Spec.Formats
import DiracRucioPolicy.Native.Fixtures
import DiracRucioPolicy.Spec.Fixtures
