/-!
# Notices

What is reported beside the answer.  Every notice has a message, and most have one detail.
-/

namespace Regrant

inductive Notice where
  | ruleMatched (index : Nat)
  | overrideIgnored (field : String)
  | lowerPriorityDropped (resource principal role : String) (priority : Int)
  | includedRoleDropped (resource principal role includedIn : String)
  | malformedSourceKey (key : String)
  | unsupportedFeature (policy feature : String)
  | principalSkipped (policy : Option String)
  | noRoleForAccesses (policy : String)
  | principalIncomplete (policy : Option String)
  | notHivePolicy (policy : String)
  | noPathResource (policy : String)
  | malformedMode (path : String)
  | identityUnmapped (path : String)
  | mapperNotInitialized
  | mapperFailed
  | hdfsDumpMissing
  | principalMapperNotInitialized
  | principalMapperFailed
  | hdfsDumpMissingForPrincipals
deriving DecidableEq

namespace Notice

def message : Notice → String
  | ruleMatched _ => "Rule matched"
  | overrideIgnored _ => "Ignoring rule override of binding field"
  | lowerPriorityDropped _ _ _ _ => "Dropping lower priority binding"
  | includedRoleDropped _ _ _ _ => "Dropping role included in another granted role"
  | malformedSourceKey _ => "Ignoring malformed principal source key"
  | unsupportedFeature _ _ => "Ranger policy uses a feature with no IAM equivalent, ignoring it"
  | principalSkipped _ => "Skipping principal marked as skip"
  | noRoleForAccesses _ => "No IAM role for Ranger accesses, skipping"
  | principalIncomplete _ => "Principal has no target type or email address, skipping"
  | notHivePolicy _ => "Not a Hive service policy, ignoring policy"
  | noPathResource _ => "HDFS policy has no path resource, it will never match"
  | malformedMode _ => "Malformed HDFS permission string, skipping"
  | identityUnmapped _ => "No principal mapping for HDFS identity, skipping"
  | mapperNotInitialized => "Failed to initialize mapper, skipping it"
  | mapperFailed => "Mapper failed, dropping its bindings"
  | hdfsDumpMissing => "HDFS permission dump not available, skipping HDFS mapper"
  | principalMapperNotInitialized => "Failed to initialize principal mapper, skipping it"
  | principalMapperFailed => "Principal mapper failed, dropping its output"
  | hdfsDumpMissingForPrincipals =>
    "HDFS permission dump not available, skipping HDFS principal mapper"

/-- What a notice is about, by the most telling of its data. -/
def detail? : Notice → Option String
  | ruleMatched index => some (toString index)
  | overrideIgnored field => some field
  | lowerPriorityDropped _ _ role _ => some role
  | includedRoleDropped _ _ _ includedIn => some includedIn
  | unsupportedFeature _ feature => some feature
  | principalSkipped policy => policy
  | noRoleForAccesses policy => some policy
  | principalIncomplete policy => policy
  | notHivePolicy policy => some policy
  | noPathResource policy => some policy
  | _ => none

end Notice

end Regrant
