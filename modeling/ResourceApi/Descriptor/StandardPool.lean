import ResourceApi.Descriptor.Pool

/-!
The files that a generated file can import.
-/

namespace ResourceApi.Pool

def httpFile : PoolFile where
  name := "google/api/http.proto"
  imports := []
  messages := ["google.api.Http", "google.api.HttpRule", "google.api.CustomHttpPattern"]

def launchStageFile : PoolFile where
  name := "google/api/launch_stage.proto"
  imports := []
  messages := []
  enums := [
    { scope := "google.api", name := "LaunchStage",
      values := ["LAUNCH_STAGE_UNSPECIFIED", "UNIMPLEMENTED", "PRELAUNCH", "EARLY_ACCESS", "ALPHA", "BETA", "GA",
        "DEPRECATED"] }]

def descriptorFile : PoolFile where
  name := "google/protobuf/descriptor.proto"
  imports := []
  messages := ["google.protobuf.FileDescriptorSet", "google.protobuf.FileDescriptorProto",
    "google.protobuf.DescriptorProto", "google.protobuf.DescriptorProto.ExtensionRange",
    "google.protobuf.DescriptorProto.ReservedRange", "google.protobuf.ExtensionRangeOptions",
    "google.protobuf.ExtensionRangeOptions.Declaration", "google.protobuf.FieldDescriptorProto",
    "google.protobuf.OneofDescriptorProto", "google.protobuf.EnumDescriptorProto",
    "google.protobuf.EnumDescriptorProto.EnumReservedRange", "google.protobuf.EnumValueDescriptorProto",
    "google.protobuf.ServiceDescriptorProto", "google.protobuf.MethodDescriptorProto", "google.protobuf.FileOptions",
    "google.protobuf.MessageOptions", "google.protobuf.FieldOptions", "google.protobuf.FieldOptions.EditionDefault",
    "google.protobuf.FieldOptions.FeatureSupport", "google.protobuf.OneofOptions", "google.protobuf.EnumOptions",
    "google.protobuf.EnumValueOptions", "google.protobuf.ServiceOptions", "google.protobuf.MethodOptions",
    "google.protobuf.UninterpretedOption", "google.protobuf.UninterpretedOption.NamePart",
    "google.protobuf.FeatureSet", "google.protobuf.FeatureSet.VisibilityFeature",
    "google.protobuf.FeatureSet.ProtoLimitsFeature",
    "google.protobuf.FeatureSetDefaults", "google.protobuf.FeatureSetDefaults.FeatureSetEditionDefault",
    "google.protobuf.SourceCodeInfo", "google.protobuf.SourceCodeInfo.Location", "google.protobuf.GeneratedCodeInfo",
    "google.protobuf.GeneratedCodeInfo.Annotation"]
  enums := [
    { scope := "google.protobuf", name := "Edition",
      values := ["EDITION_UNKNOWN", "EDITION_LEGACY", "EDITION_PROTO2", "EDITION_PROTO3", "EDITION_2023",
        "EDITION_2024", "EDITION_2026", "EDITION_UNSTABLE", "EDITION_1_TEST_ONLY", "EDITION_2_TEST_ONLY",
        "EDITION_99997_TEST_ONLY", "EDITION_99998_TEST_ONLY", "EDITION_99999_TEST_ONLY", "EDITION_MAX"] },
    { scope := "google.protobuf", name := "SymbolVisibility",
      values := ["VISIBILITY_UNSET", "VISIBILITY_LOCAL", "VISIBILITY_EXPORT"] },
    { scope := "google.protobuf.ExtensionRangeOptions", name := "VerificationState",
      values := ["DECLARATION", "UNVERIFIED"] },
    { scope := "google.protobuf.FieldDescriptorProto", name := "Type", startsAtZero := false,
      values := ["TYPE_DOUBLE", "TYPE_FLOAT", "TYPE_INT64", "TYPE_UINT64", "TYPE_INT32", "TYPE_FIXED64",
        "TYPE_FIXED32", "TYPE_BOOL", "TYPE_STRING", "TYPE_GROUP", "TYPE_MESSAGE", "TYPE_BYTES", "TYPE_UINT32",
        "TYPE_ENUM", "TYPE_SFIXED32", "TYPE_SFIXED64", "TYPE_SINT32", "TYPE_SINT64"] },
    { scope := "google.protobuf.FieldDescriptorProto", name := "Label", startsAtZero := false,
      values := ["LABEL_OPTIONAL", "LABEL_REPEATED", "LABEL_REQUIRED"] },
    { scope := "google.protobuf.FileOptions", name := "OptimizeMode", startsAtZero := false,
      values := ["SPEED", "CODE_SIZE", "LITE_RUNTIME"] },
    { scope := "google.protobuf.FieldOptions", name := "CType", values := ["STRING", "CORD", "STRING_PIECE"] },
    { scope := "google.protobuf.FieldOptions", name := "JSType", values := ["JS_NORMAL", "JS_STRING", "JS_NUMBER"] },
    { scope := "google.protobuf.FieldOptions", name := "OptionRetention",
      values := ["RETENTION_UNKNOWN", "RETENTION_RUNTIME", "RETENTION_SOURCE"] },
    { scope := "google.protobuf.FieldOptions", name := "OptionTargetType",
      values := ["TARGET_TYPE_UNKNOWN", "TARGET_TYPE_FILE", "TARGET_TYPE_EXTENSION_RANGE", "TARGET_TYPE_MESSAGE",
        "TARGET_TYPE_FIELD", "TARGET_TYPE_ONEOF", "TARGET_TYPE_ENUM", "TARGET_TYPE_ENUM_ENTRY", "TARGET_TYPE_SERVICE",
        "TARGET_TYPE_METHOD"] },
    { scope := "google.protobuf.MethodOptions", name := "IdempotencyLevel",
      values := ["IDEMPOTENCY_UNKNOWN", "NO_SIDE_EFFECTS", "IDEMPOTENT"] },
    { scope := "google.protobuf.FeatureSet", name := "FieldPresence",
      values := ["FIELD_PRESENCE_UNKNOWN", "EXPLICIT", "IMPLICIT", "LEGACY_REQUIRED"] },
    { scope := "google.protobuf.FeatureSet", name := "EnumType", values := ["ENUM_TYPE_UNKNOWN", "OPEN", "CLOSED"] },
    { scope := "google.protobuf.FeatureSet", name := "RepeatedFieldEncoding",
      values := ["REPEATED_FIELD_ENCODING_UNKNOWN", "PACKED", "EXPANDED"] },
    { scope := "google.protobuf.FeatureSet", name := "Utf8Validation",
      values := ["UTF8_VALIDATION_UNKNOWN", "VERIFY", "NONE"] },
    { scope := "google.protobuf.FeatureSet", name := "MessageEncoding",
      values := ["MESSAGE_ENCODING_UNKNOWN", "LENGTH_PREFIXED", "DELIMITED"] },
    { scope := "google.protobuf.FeatureSet", name := "JsonFormat",
      values := ["JSON_FORMAT_UNKNOWN", "ALLOW", "LEGACY_BEST_EFFORT"] },
    { scope := "google.protobuf.FeatureSet", name := "EnforceNamingStyle",
      values := ["ENFORCE_NAMING_STYLE_UNKNOWN", "STYLE2024", "STYLE_LEGACY", "STYLE2026"] },
    { scope := "google.protobuf.FeatureSet.VisibilityFeature", name := "DefaultSymbolVisibility",
      values := ["DEFAULT_SYMBOL_VISIBILITY_UNKNOWN", "EXPORT_ALL", "EXPORT_TOP_LEVEL", "LOCAL_ALL", "STRICT"] },
    { scope := "google.protobuf.FeatureSet.ProtoLimitsFeature", name := "EnforceProtoLimits",
      values := ["PROTO_LIMITS_UNKNOWN", "LEGACY_NO_EXPLICIT_LIMITS", "PROTO_LIMITS2026"] },
    { scope := "google.protobuf.GeneratedCodeInfo.Annotation", name := "Semantic",
      values := ["NONE", "SET", "ALIAS"] }]

def durationFile : PoolFile where
  name := "google/protobuf/duration.proto"
  imports := []
  messages := ["google.protobuf.Duration"]

def emptyFile : PoolFile where
  name := "google/protobuf/empty.proto"
  imports := []
  messages := ["google.protobuf.Empty"]

def fieldMaskFile : PoolFile where
  name := "google/protobuf/field_mask.proto"
  imports := []
  messages := ["google.protobuf.FieldMask"]

def anyFile : PoolFile where
  name := "google/protobuf/any.proto"
  imports := []
  messages := ["google.protobuf.Any"]

def annotationsFile : PoolFile where
  name := "google/api/annotations.proto"
  imports := ["google/api/http.proto", "google/protobuf/descriptor.proto"]
  messages := []
  others := ["google.api.http"]

def clientFile : PoolFile where
  name := "google/api/client.proto"
  imports := ["google/api/launch_stage.proto", "google/protobuf/descriptor.proto", "google/protobuf/duration.proto"]
  messages := ["google.api.CommonLanguageSettings", "google.api.ClientLibrarySettings", "google.api.Publishing",
    "google.api.JavaSettings", "google.api.JavaSettings.ServiceClassNamesEntry", "google.api.CppSettings",
    "google.api.PhpSettings", "google.api.PythonSettings", "google.api.PythonSettings.ExperimentalFeatures",
    "google.api.NodeSettings", "google.api.DotnetSettings", "google.api.DotnetSettings.RenamedServicesEntry",
    "google.api.DotnetSettings.RenamedResourcesEntry", "google.api.RubySettings", "google.api.GoSettings",
    "google.api.GoSettings.RenamedServicesEntry", "google.api.MethodSettings",
    "google.api.MethodSettings.LongRunning", "google.api.SelectiveGapicGeneration", "google.api.BatchingConfigProto",
    "google.api.BatchingSettingsProto", "google.api.BatchingDescriptorProto"]
  enums := [
    { scope := "google.api", name := "ClientLibraryOrganization",
      values := ["CLIENT_LIBRARY_ORGANIZATION_UNSPECIFIED", "CLOUD", "ADS", "PHOTOS", "STREET_VIEW", "SHOPPING",
        "GEO", "GENERATIVE_AI"] },
    { scope := "google.api", name := "ClientLibraryDestination",
      values := ["CLIENT_LIBRARY_DESTINATION_UNSPECIFIED", "GITHUB", "PACKAGE_MANAGER"] },
    { scope := "google.api", name := "FlowControlLimitExceededBehaviorProto",
      values := ["UNSET_BEHAVIOR", "THROW_EXCEPTION", "BLOCK", "IGNORE"] }]
  others := ["google.api.method_signature", "google.api.default_host", "google.api.oauth_scopes",
    "google.api.api_version"]

def fieldBehaviorFile : PoolFile where
  name := "google/api/field_behavior.proto"
  imports := ["google/protobuf/descriptor.proto"]
  messages := []
  enums := [
    { scope := "google.api", name := "FieldBehavior",
      values := ["FIELD_BEHAVIOR_UNSPECIFIED", "OPTIONAL", "REQUIRED", "OUTPUT_ONLY", "INPUT_ONLY", "IMMUTABLE",
        "UNORDERED_LIST", "NON_EMPTY_DEFAULT", "IDENTIFIER"] }]
  others := ["google.api.field_behavior"]

def resourceFile : PoolFile where
  name := "google/api/resource.proto"
  imports := ["google/protobuf/descriptor.proto"]
  messages := ["google.api.ResourceDescriptor", "google.api.ResourceReference"]
  enums := [
    { scope := "google.api.ResourceDescriptor", name := "History",
      values := ["HISTORY_UNSPECIFIED", "ORIGINALLY_SINGLE_PATTERN", "FUTURE_MULTI_PATTERN"] },
    { scope := "google.api.ResourceDescriptor", name := "Style",
      values := ["STYLE_UNSPECIFIED", "DECLARATIVE_FRIENDLY"] }]
  others := ["google.api.resource_reference", "google.api.resource_definition", "google.api.resource"]

def statusFile : PoolFile where
  name := "google/rpc/status.proto"
  imports := ["google/protobuf/any.proto"]
  messages := ["google.rpc.Status"]

def operationsFile : PoolFile where
  name := "google/longrunning/operations.proto"
  imports := ["google/api/annotations.proto", "google/api/client.proto", "google/api/field_behavior.proto",
    "google/protobuf/any.proto", "google/protobuf/descriptor.proto", "google/protobuf/duration.proto",
    "google/protobuf/empty.proto", "google/rpc/status.proto"]
  messages := ["google.longrunning.Operation", "google.longrunning.GetOperationRequest",
    "google.longrunning.ListOperationsRequest", "google.longrunning.ListOperationsResponse",
    "google.longrunning.CancelOperationRequest", "google.longrunning.DeleteOperationRequest",
    "google.longrunning.WaitOperationRequest", "google.longrunning.OperationInfo"]
  others := ["google.longrunning.Operations", "google.longrunning.operation_info"]

def standard : Pool where
  files := [httpFile, launchStageFile, descriptorFile, durationFile, emptyFile, fieldMaskFile, anyFile,
    annotationsFile, clientFile, fieldBehaviorFile, resourceFile, statusFile, operationsFile]

end ResourceApi.Pool
