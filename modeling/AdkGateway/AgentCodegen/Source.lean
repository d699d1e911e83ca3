import AdkGateway.AgentRegistry.Registry
import AdkGateway.Foundation.SourceText
import AdkGateway.Foundation.Splitting

namespace AdkGateway.AgentCodegen

open Foundation

section Config

/-- A number as it is formatted: digits, a sign and a point, or `inf` or `NaN`. -/
structure NumberText where
  text : String
  plain : ∀ c ∈ text.toList, c.isAlphanum = true ∨ c = '.' ∨ c = '-'

structure ActionNodeConfig where
  id : String
  config : Json
  valid : JsonText.ValueText config (JsonText.write config)

inductive AgentType
  | llm
  | sequential
  | parallel
  | loop
  | router
  | graph

structure AgentConfig extends AdkGateway.AgentConfig where
  agentType : AgentType
  apiKeyEnv : String
  actionNodes : List ActionNodeConfig
  subAgents : List String
  temperature : Option NumberText
  maxOutputTokens : Option NumberText

structure AgentSchema where
  id : String
  name : String
  description : String
  agentType : String
  model : String
  instruction : String
  temperature : Option NumberText
  maxOutputTokens : Option NumberText
  subAgents : List String

structure ProjectSchema where
  agent : AgentSchema
  tools : List String
  actionNodes : List ActionNodeConfig
  apiKeyEnv : String
  adkCrateRoot : Option String

def AgentType.str : AgentType → String
  | llm => "llm"
  | sequential => "sequential"
  | parallel => "parallel"
  | loop => "loop"
  | router => "router"
  | graph => "graph"

def toProjectSchema (adkCrateRoot : Option String) (config : AgentConfig) : ProjectSchema where
  agent := ⟨config.id, config.name, config.description, config.agentType.str, config.model,
    config.instruction, config.temperature, config.maxOutputTokens, config.subAgents⟩
  tools := config.tools
  actionNodes := config.actionNodes
  apiKeyEnv := config.apiKeyEnv
  adkCrateRoot := adkCrateRoot

end Config

section Fragments

def replace (c : Char) (by_ : List Char) (cs : List Char) : List Char :=
  cs.flatMap fun d ↦ if d = c then by_ else [d]

def escaped (s : String) : List Char := replace '"' ['\\', '"'] (replace '\\' ['\\', '\\'] s.toList)

inductive Fragment
  | template (text : String)
  | field (value : String) (escape : Bool)
  | number (n : NumberText)

def emitted (value : String) (escape : Bool) : List Char :=
  if escape then escaped value else value.toList

def Fragment.text : Fragment → List Char
  | template text => text.toList
  | field value escape => emitted value escape
  | number n => n.text.toList

def render (fragments : List Fragment) : List Char := fragments.flatMap Fragment.text

end Fragments

section MainRs

def stdinLoopMarker : String := "// __STDIN_INTERACTIVE_LOOP__"

def stdinLoopEndMarker : String := "// __END_STDIN_INTERACTIVE_LOOP__"

def docStart : String := "//! Generated agent binary for \""

def idStart : String :=
  "\".
//!
//! Auto-generated by adk-gateway AgentCodegen. Do not edit manually.

use std::io::BufRead;

#[tokio::main]
async fn main() \x7b
    let agent_id = \""

def nameStart : String := "\";\n    let agent_name = \""

def descriptionStart : String := "\";\n    let agent_description = \""

def typeStart : String := "\";\n    let agent_type = \""

def instructionStart : String := "\";\n    let instruction = \""

def instructionEnd : String := "\";\n\n"

def providerStart : String := "    let _model_provider = \""

def modelStart : String := "\";\n    let _model_id = \""

def apiKeyStart : String := "\";\n    let _api_key_env = \""

def statementEnd : String := "\";\n"

def provider (model : String) : String :=
  let startsWith (start : String) : Bool := start.toList.isPrefixOf model.toList
  if startsWith "anthropic/" then "anthropic"
  else if startsWith "openai/" || startsWith "gpt-" then "openai"
  else if startsWith "google/" || startsWith "gemini" then "gemini"
  else if startsWith "ollama/" then "ollama"
  else "openai"

def generateModelSetup (model apiKeyEnv : String) : List Fragment :=
  [.template providerStart, .field (provider model) false, .template modelStart,
    .field model false, .template apiKeyStart, .field apiKeyEnv false, .template statementEnd]

def tempLine (temperature : Option NumberText) : List Fragment :=
  match temperature with
  | some t => [.template "    let _temperature: f32 = ", .number t, .template ";\n"]
  | none => []

def maxTokensLine (maxOutputTokens : Option NumberText) : List Fragment :=
  match maxOutputTokens with
  | some t => [.template "    let _max_output_tokens: i32 = ", .number t, .template ";\n"]
  | none => []

def toolRegistrations (tools : List String) : List Fragment :=
  tools.flatMap fun tool ↦ [.template "    // tool: ", .field tool false, .template "\n"]

def configText (node : ActionNodeConfig) : String := String.ofList (JsonText.write node.config)

def actionNodeSetup (nodes : List ActionNodeConfig) : List Fragment :=
  if nodes.isEmpty then []
  else .template "    // Action nodes:\n" :: nodes.flatMap fun node ↦
    [.template "    // node: ", .field node.id false, .template " config=",
      .field (configText node) false, .template "\n"]

def buildStart : String := "    // Build the agent (type: "

def buildEnd : String :=
  ")
    println!(\"Agent '\x7b\x7d' (\x7b\x7d) initialized\", agent_name, agent_type);

"

def beforeLoop (schema : ProjectSchema) : List Fragment :=
  let agent := schema.agent
  [.template docStart, .field agent.name true, .template idStart, .field agent.id false,
    .template nameStart, .field agent.name true, .template descriptionStart,
    .field agent.description true, .template typeStart, .field agent.agentType false,
    .template instructionStart, .field agent.instruction true, .template instructionEnd] ++
  (generateModelSetup agent.model schema.apiKeyEnv ++ (.template "\n" ::
  (tempLine agent.temperature ++ (maxTokensLine agent.maxOutputTokens ++
  (toolRegistrations schema.tools ++ (actionNodeSetup schema.actionNodes ++
  [.template buildStart, .field agent.agentType false, .template buildEnd]))))))

def loopBody : String :=
  "
    let stdin = std::io::stdin();
    for line in stdin.lock().lines() \x7b
        let line = match line \x7b
            Ok(l) => l,
            Err(e) => \x7b
                eprintln!(\"Error reading stdin: \x7b\x7d\", e);
                break;
            \x7d
        \x7d;
        if line.trim() == \"quit\" \x7b
            break;
        \x7d
        println!(\"Agent \x7b\x7d received: \x7b\x7d\", agent_id, line);
    \x7d
"

def afterLoop : String := "\n\x7d\n"

def generateMainRs (schema : ProjectSchema) : List Char :=
  render (beforeLoop schema) ++ (stdinLoopMarker.toList ++ (loopBody.toList ++
    (stdinLoopEndMarker.toList ++ afterLoop.toList)))

end MainRs

section CargoToml

def adkCrates : List String :=
  ["adk-core", "adk-agent", "adk-runner", "adk-session", "adk-server", "adk-model", "adk-tool",
    "adk-graph", "adk-memory"]

def adkDeps : Option String → String
  | some root => "\n".intercalate (adkCrates.map fun name ↦
      name ++ " = \x7b path = \"" ++ root ++ "/" ++ name ++ "\" \x7d")
  | none => "\n".intercalate ("# adk dependencies — set version or path as needed" ::
      adkCrates.map fun name ↦ "# " ++ name ++ " = \"0.1\"")

def packageStart : String := "[package]\nname = \""

def binStart : String :=
  "\"\nversion = \"0.1.0\"\nedition = \"2021\"\n\n[[bin]]\nname = \""

def dependenciesStart : String := "\"\npath = \"src/main.rs\"\n\n[dependencies]\n"

def dependenciesEnd : String :=
  "
tokio = \x7b version = \"1\", features = [\"full\"] \x7d
axum = \x7b version = \"0.8\", features = [\"macros\"] \x7d
serde = \x7b version = \"1\", features = [\"derive\"] \x7d
serde_json = \"1\"
"

def generateCargoToml (schema : ProjectSchema) : List Fragment :=
  [.template packageStart, .field schema.agent.id false, .template binStart,
    .field schema.agent.id false, .template dependenciesStart,
    .template (adkDeps schema.adkCrateRoot), .template dependenciesEnd]

end CargoToml

section Server

def cardStart : String :=
  "    // ── A2A HTTP Server (injected by AgentCodegen) ──
    let port: u16 = std::env::var(\"AGENT_PORT\")
        .expect(\"AGENT_PORT must be set\")
        .parse()
        .expect(\"AGENT_PORT must be a valid u16\");
    let agent_id_env = std::env::var(\"AGENT_ID\")
        .unwrap_or_else(|_| agent_id.to_string());

    let agent_card = serde_json::json!(\x7b
        \"name\": \""

def cardDescription : String := "\",\n        \"description\": \""

def cardEnd : String :=
  "\",
        \"url\": format!(\"http://127.0.0.1:\x7b\x7d\", port),
        \"capabilities\": \x7b
            \"streaming\": true,
            \"pushNotifications\": false
        \x7d,
        \"skills\": []
    \x7d);

    println!(\"Starting A2A server for '\x7b\x7d' on port \x7b\x7d\", agent_id_env, port);

    let card_json = agent_card.clone();
    let app = axum::Router::new()
        .route(\"/.well-known/agent.json\", axum::routing::get(move || async move \x7b
            axum::Json(card_json.clone())
        \x7d))
        .route(\"/a2a\", axum::routing::post(move |body: axum::Json<serde_json::Value>| async move \x7b
            // Process the A2A message and return a response.
            let input = body.0;
            let response = serde_json::json!(\x7b
                \"jsonrpc\": \"2.0\",
                \"id\": input.get(\"id\").cloned().unwrap_or(serde_json::json!(null)),
                \"result\": \x7b
                    \"content\": [\x7b
                        \"type\": \"text\",
                        \"text\": format!(\"Agent \x7b\x7d processed your request.\", agent_id)
                    \x7d]
                \x7d
            \x7d);
            axum::Json(response)
        \x7d));

    let addr = std::net::SocketAddr::from(([127, 0, 0, 1], port));
    let listener = tokio::net::TcpListener::bind(addr).await.expect(\"failed to bind\");
    println!(\"A2A server listening on http://\x7b\x7d\", addr);
    axum::serve(listener, app).await.expect(\"server error\");
"

def serverCode (config : AgentConfig) : List Fragment :=
  [.template cardStart, .field config.name true, .template cardDescription,
    .field config.description true, .template cardEnd]

def missingMarkers : String :=
  "\n// WARNING: stdin loop markers not found, appending server code.\n"

def injectA2aServer (mainRs : List Char) (config : AgentConfig) : List Char :=
  let serverCode := render (serverCode config)
  match Text.splitOnceChars stdinLoopMarker.toList mainRs,
      Text.splitOnceChars stdinLoopEndMarker.toList mainRs with
  | some (before, _), some (_, after) => before ++ serverCode ++ '\n' :: after
  | _, _ => mainRs ++ missingMarkers.toList ++ serverCode ++ ['\n']

end Server

end AdkGateway.AgentCodegen
