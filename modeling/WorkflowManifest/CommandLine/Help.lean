namespace WorkflowManifest.CommandLine

def versionText : String := "n8nwf 0.1.0\n"

def shortHelpText : String :=
  String.join (List.map (· ++ "\n")
    ["Convert an n8n workflow JSON export into an N8nWorkflow Kubernetes custom resource",
      "",
      "Usage: n8nwf [OPTIONS] <WORKFLOW_FILE>",
      "",
      "Arguments:",
      "  <WORKFLOW_FILE>  Path to the n8n workflow JSON file",
      "",
      "Options:",
      "  -n, --namespace <NAMESPACE>      Kubernetes namespace of the resource [default: n8n]",
      "      --inactive                   Create the workflow as inactive",
      "      --sync-policy <SYNC_POLICY>  How the operator syncs the workflow with n8n [possible values: Always, CreateOnly, Manual]",
      "      --n8n-url <URL>              Full base URL of the n8n API (takes precedence over service/namespace/port)",
      "      --n8n-service <NAME>         Name of the n8n Service",
      "      --n8n-namespace <NAMESPACE>  Namespace of the n8n Service",
      "      --n8n-port <PORT>            Port of the n8n Service",
      "      --api-key-secret <SECRET>    Secret holding the n8n API key",
      "      --api-key-secret-key <KEY>   Key inside the API key secret",
      "  -o, --output <FILE>              Write the manifest to a file instead of stdout",
      "      --debug                      More verbose logging",
      "  -h, --help                       Print help (see more with '--help')",
      "  -V, --version                    Print version"])

def longHelpText : String :=
  String.join (List.map (· ++ "\n")
    ["Convert an n8n workflow JSON export into an N8nWorkflow Kubernetes custom resource",
      "",
      "Usage: n8nwf [OPTIONS] <WORKFLOW_FILE>",
      "",
      "Arguments:",
      "  <WORKFLOW_FILE>",
      "          Path to the n8n workflow JSON file",
      "",
      "Options:",
      "  -n, --namespace <NAMESPACE>",
      "          Kubernetes namespace of the resource",
      "          ",
      "          [default: n8n]",
      "",
      "      --inactive",
      "          Create the workflow as inactive",
      "",
      "      --sync-policy <SYNC_POLICY>",
      "          How the operator syncs the workflow with n8n",
      "",
      "          Possible values:",
      "          - Always:     Continuously sync, overwriting changes made in the n8n UI",
      "          - CreateOnly: Create the workflow once and never update it",
      "          - Manual:     Pause all sync operations",
      "",
      "      --n8n-url <URL>",
      "          Full base URL of the n8n API (takes precedence over service/namespace/port)",
      "",
      "      --n8n-service <NAME>",
      "          Name of the n8n Service",
      "",
      "      --n8n-namespace <NAMESPACE>",
      "          Namespace of the n8n Service",
      "",
      "      --n8n-port <PORT>",
      "          Port of the n8n Service",
      "",
      "      --api-key-secret <SECRET>",
      "          Secret holding the n8n API key",
      "",
      "      --api-key-secret-key <KEY>",
      "          Key inside the API key secret",
      "",
      "  -o, --output <FILE>",
      "          Write the manifest to a file instead of stdout",
      "",
      "      --debug",
      "          More verbose logging",
      "",
      "  -h, --help",
      "          Print help (see a summary with '-h')",
      "",
      "  -V, --version",
      "          Print version"])

end WorkflowManifest.CommandLine
